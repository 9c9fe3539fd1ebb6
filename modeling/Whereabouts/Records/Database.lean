import Whereabouts.Json.Reader
import Whereabouts.Json.Printer
import Whereabouts.OrderedMap
import Whereabouts.Records.Check
import Whereabouts.Records.Item
import Whereabouts.Records.Project

/-!
# The database

Every table as one value, with its document.  New rows get ids above everything
that the table holds or ever handed out.
-/

namespace Whereabouts

/-- Every table that a check reads or writes. -/
structure Database where
  schemaVersion : UInt32
  projects : Table Project
  users : Table User
  assets : Table Asset
  tileServers : Table TileServer
  pointClouds : Table PointCloud
  runs : Table Run
  tasks : Table Task
  /-- The last id handed out for each table. -/
  sequences : OrderedMap String Int64
  deriving DecidableEq

namespace Database

def fresh : Database where
  schemaVersion := 1
  projects := .empty
  users := .empty
  assets := .empty
  tileServers := .empty
  pointClouds := .empty
  runs := .empty
  tasks := .empty
  sequences := .empty

instance : Inhabited Database := ⟨fresh⟩

/-! ## Documents -/

/-- The key of a row in a document: an integer exactly as it is written, without
escapes. -/
def readKey? (key : Json.Name) : Option Int64 :=
  if key.escaped then
    none
  else
    match Json.readNumber key.text.toList with
    | some (value, []) => Json.int64? value
    | _ => none

def tableJson {α : Type} (write : α -> Json) (table : Table α) : Json :=
  .obj (table.entries.map fun entry => (Text.intText entry.1.toInt, write entry.2))

/-- The table that an object denotes; of two rows under one id the later stays. -/
def table? {α : Type} (read : Json -> Option α) (value : Json) : Option (Table α) :=
  (Json.table? readKey? read value).map OrderedMap.ofList

def toJson (db : Database) : Json :=
  .obj
    [("schema_version", .int db.schemaVersion.toNat),
      ("projects", tableJson Project.toJson db.projects),
      ("users", tableJson User.toJson db.users),
      ("assets", tableJson Asset.toJson db.assets),
      ("tile_servers", tableJson TileServer.toJson db.tileServers),
      ("point_clouds", tableJson PointCloud.toJson db.pointClouds),
      ("runs", tableJson Run.toJson db.runs),
      ("tasks", tableJson Task.toJson db.tasks),
      ("sequences",
        .obj (db.sequences.entries.map fun entry => (entry.1, Json.ofInt64 entry.2)))]

def names : List String :=
  ["schema_version", "projects", "users", "assets", "tile_servers", "point_clouds", "runs",
    "tasks", "sequences"]

/-- The levels of nesting left inside a row: the document, its table and the row
itself are open. -/
def rowRoom : Nat :=
  Json.deepest - 3

/-- The database that a value denotes; an absent table is empty. -/
def ofJson? (value : Json) : Option Database := do
  let fields <- value.fields? names
  let schemaVersion <- fields.orDefault? "schema_version" 1 Json.uint32?
  let projects <- fields.orDefault? "projects" .empty (table? Project.ofJson?)
  let users <- fields.orDefault? "users" .empty (table? User.ofJson?)
  let assets <- fields.orDefault? "assets" .empty (table? (Asset.ofJson? rowRoom))
  let tileServers <- fields.orDefault? "tile_servers" .empty
    (table? (TileServer.ofJson? rowRoom))
  let pointClouds <- fields.orDefault? "point_clouds" .empty (table? PointCloud.ofJson?)
  let runs <- fields.orDefault? "runs" .empty (table? Run.ofJson?)
  let tasks <- fields.orDefault? "tasks" .empty (table? Task.ofJson?)
  let sequences <- fields.orDefault? "sequences" .empty fun given =>
    (Json.table? (fun name => some name.text) Json.int64? given).map OrderedMap.ofList
  return { schemaVersion, projects, users, assets, tileServers, pointClouds, runs, tasks,
           sequences }

def document (db : Database) : String :=
  db.toJson.indented ++ "\n"

/-- The database that a stored text denotes; a blank text stands for a new one. -/
def ofDocument? (text : String) : Option Database :=
  if Text.isBlankText text then some fresh
  else (Json.parse? text.toList).bind ofJson?

/-! ## Rows -/

/-- The first run of a project, in the order of ids. -/
def runOf? (db : Database) (projectId : Int64) : Option Run :=
  db.runs.values.find? (fun run => run.projectId == projectId)

def runKey? (db : Database) (projectId : Int64) : Option Int64 :=
  (db.runs.entries.find? (fun entry => entry.2.projectId == projectId)).map Prod.fst

def assetsOf (db : Database) (projectId : Int64) : List Asset :=
  db.assets.values.filter (fun asset => asset.projectId == projectId)

def tileServersOf (db : Database) (projectId : Int64) : List TileServer :=
  db.tileServers.values.filter (fun server => server.projectId == projectId)

/-- The id after everything that a table holds or has handed out. -/
def nextId {α : Type} (sequences : OrderedMap String Int64) (name : String)
    (rows : Table α) : Int64 :=
  let top := rows.keys.getLast?.getD 0
  max ((sequences.get? name).getD 0) top + 1

def insertTask (db : Database) (task : Task) : Int64 × Database :=
  let id := nextId db.sequences "tasks" db.tasks
  (id, { db with
    sequences := db.sequences.insert "tasks" id
    tasks := db.tasks.insert id { task with id := id } })

def insertRun (db : Database) (run : Run) : Int64 × Database :=
  let id := nextId db.sequences "runs" db.runs
  (id, { db with
    sequences := db.sequences.insert "runs" id
    runs := db.runs.insert id { run with id := id } })

def tracked? (db : Database) (key : ItemKey) : Option Tracked :=
  match key.kind with
  | .asset => (db.assets.get? key.id).map .asset
  | .tileServer => (db.tileServers.get? key.id).map .tileServer

def location? (db : Database) (key : ItemKey) : Option Location :=
  (db.tracked? key).map Tracked.location

/-- The database with the location of a tracked item replaced, when its row
exists. -/
def setLocation (db : Database) (key : ItemKey) (loc : Location) : Database :=
  match key.kind with
  | .asset =>
      { db with assets := db.assets.modify key.id fun asset => { asset with location := loc } }
  | .tileServer =>
      { db with
        tileServers := db.tileServers.modify key.id fun server =>
          { server with location := loc } }

end Database
end Whereabouts
