import Whereabouts.Json.Fields
import Whereabouts.Text.Blank

/-!
# Projects, users and point clouds

The rows that a check reads and never changes.
-/

namespace Whereabouts

/-- A project and the storage system that owns its files. -/
structure Project where
  id : Int64
  name : String
  systemId : Option String
  deriving DecidableEq, Inhabited

/-- A user and the token for remote storage. -/
structure User where
  id : Int64
  username : String
  token : Option String
  deriving DecidableEq, Inhabited

structure SourceFile where
  name : String
  size : Option UInt64
  deriving DecidableEq, Inhabited

structure PointCloud where
  id : Int64
  projectId : Int64
  files : List SourceFile
  deriving DecidableEq, Inhabited

namespace Project

/-- The storage system that owns the project's files, when one is named. -/
def owningSystem? (project : Project) : Option String :=
  project.systemId.filter (fun system => system != "")

def toJson (project : Project) : Json :=
  .obj
    [("id", Json.ofInt64 project.id),
      ("name", .str project.name),
      ("system_id", Json.ofOption .str project.systemId)]

def ofJson? (value : Json) : Option Project := do
  let fields <- value.fields? ["id", "name", "system_id"]
  let id <- fields.required? "id" Json.int64?
  let name <- fields.required? "name" Json.str?
  let systemId <- fields.optional? "system_id" Json.str?
  return { id, name, systemId }

end Project

namespace User

/-- The user's token, when it is more than blanks. -/
def credentials? (user : User) : Option String :=
  user.token.filter (fun token => !Text.isBlankText token)

def toJson (user : User) : Json :=
  .obj
    [("id", Json.ofInt64 user.id),
      ("username", .str user.username),
      ("token", Json.ofOption .str user.token)]

def ofJson? (value : Json) : Option User := do
  let fields <- value.fields? ["id", "username", "token"]
  let id <- fields.required? "id" Json.int64?
  let username <- fields.required? "username" Json.str?
  let token <- fields.optional? "token" Json.str?
  return { id, username, token }

end User

namespace SourceFile

def toJson (file : SourceFile) : Json :=
  .obj [("name", .str file.name), ("size", Json.ofOption Json.ofUInt64 file.size)]

def ofJson? (value : Json) : Option SourceFile := do
  let fields <- value.fields? ["name", "size"]
  let name <- fields.required? "name" Json.str?
  let size <- fields.optional? "size" Json.uint64?
  return { name, size }

end SourceFile

namespace PointCloud

/-- The first file name that is more than blanks, trimmed. -/
def sourceName? (cloud : PointCloud) : Option String :=
  cloud.files.findSome? fun file => Text.nonBlank? file.name

def toJson (cloud : PointCloud) : Json :=
  .obj
    [("id", Json.ofInt64 cloud.id),
      ("project_id", Json.ofInt64 cloud.projectId),
      ("files_info", .arr (cloud.files.map SourceFile.toJson))]

def ofJson? (value : Json) : Option PointCloud := do
  let fields <- value.fields? ["id", "project_id", "files_info"]
  let id <- fields.required? "id" Json.int64?
  let projectId <- fields.required? "project_id" Json.int64?
  let files <- fields.orDefault? "files_info" [] (Json.list? SourceFile.ofJson?)
  return { id, projectId, files }

end PointCloud
end Whereabouts
