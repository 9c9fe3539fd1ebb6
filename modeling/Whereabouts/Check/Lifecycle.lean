import Whereabouts.Check.Clock
import Whereabouts.Store.Vault

/-!
# The life of a check

Queueing a check, following its progress and ending it.  A project has one run
row, which every check of the project uses again.
-/

namespace Whereabouts

structure StartedCheck where
  runId : Int64
  taskId : Option Int64
  /-- A check was in flight, and nothing was queued. -/
  alreadyRunning : Bool
  deriving DecidableEq, Inhabited

namespace Database

def updateRun (db : Database) (projectId : Int64) (update : Run -> Run) :
    Except Fault (Run × Database) :=
  match db.runKey? projectId, db.runOf? projectId with
  | some key, some run =>
      let changed := update run
      .ok (changed, { db with runs := db.runs.insert key changed })
  | _, _ => .error (.missingRun projectId)

def updateTask (db : Database) (taskId : Int64) (status : TaskStatus) (message : String)
    (time : Instant) : Except Fault (Unit × Database) :=
  match db.tasks.get? taskId with
  | some task =>
      let changed := task.progressed status message time
      .ok ((), { db with tasks := db.tasks.insert taskId changed })
  | none => .error (.missingTask taskId)

def supersede (db : Database) (taskId : Int64) (time : Instant) : Database :=
  { db with
    tasks := db.tasks.modify taskId fun task =>
      if task.status.isTerminal then task
      else task.progressed .failed "Superseded by a forced restart" time }

def supersedeStale (db : Database) (stale : Option Int64) (time : Instant) : Database :=
  match stale with
  | some taskId => db.supersede taskId time
  | none => db

def queuedTask (projectId : Int64) (processId : String) (time : Instant) : Task where
  id := 0
  processId := processId
  status := .queued
  description := "Refreshing public status"
  projectId := projectId
  latestMessage := none
  created := time
  updated := none

def startedRun (projectId taskId : Int64) (time : Instant) : Run where
  id := 0
  projectId := projectId
  taskId := some taskId
  startedAt := time
  completedAt := none
  totalItems := 0
  itemsChecked := 0
  itemsFailed := 0

/-- The database with a new check of a project queued.  Unless it is forced, a
check in flight is left alone. -/
def startCheck (db : Database) (projectId : Int64) (force : Bool) (processId : String)
    (time : Instant) : Except Fault (StartedCheck × Database) :=
  if !db.projects.contains projectId then
    .error (.missingProject projectId)
  else
    let current := db.runOf? projectId
    match current.filter (fun run => run.isRunning && !force) with
    | some run =>
        .ok ({ runId := run.id, taskId := run.taskId, alreadyRunning := true }, db)
    | none =>
        let stale := (current.filter Run.isRunning).bind Run.taskId
        let cleared := db.supersedeStale stale time
        let (taskId, queued) := cleared.insertTask (queuedTask projectId processId time)
        match queued.updateRun projectId fun run =>
            { startedRun projectId taskId time with
              id := run.id, projectId := run.projectId } with
        | .ok (run, started) =>
            .ok ({ runId := run.id, taskId := some taskId, alreadyRunning := false }, started)
        | .error _ =>
            let (runId, started) := queued.insertRun (startedRun projectId taskId time)
            .ok ({ runId, taskId := some taskId, alreadyRunning := false }, started)

end Database

namespace Check

variable {m : Type -> Type} [Monad m]

def start (vault : Vault m) (clock : Clock m) (projectId : Int64) (force : Bool) :
    Attempt m StartedCheck := do
  let processId <- Attempt.effect clock.newProcessId
  let time <- Attempt.effect clock.now
  vault.transaction fun db => db.startCheck projectId force processId time

def run? (vault : Vault m) (projectId : Int64) : Attempt m (Option Run) :=
  return (<- vault.snapshot).runOf? projectId

def isRunning (vault : Vault m) (projectId : Int64) : Attempt m Bool :=
  return ((<- run? vault projectId).map Run.isRunning).getD false

def updateRun (vault : Vault m) (projectId : Int64) (update : Run -> Run) : Attempt m Run :=
  vault.transaction fun db => db.updateRun projectId update

def complete (vault : Vault m) (clock : Clock m) (projectId : Int64) : Attempt m Run := do
  let time <- Attempt.effect clock.now
  updateRun vault projectId fun run => { run with completedAt := some time }

def updateTask (vault : Vault m) (clock : Clock m) (taskId : Int64) (status : TaskStatus)
    (message : String) : Attempt m Unit := do
  let time <- Attempt.effect clock.now
  vault.transaction fun db => db.updateTask taskId status message time

end Check

/-! ## Reports on checks -/

structure CheckSummary where
  projectId : Int64
  run : Run
  taskStatus : Option TaskStatus
  latestMessage : Option String

structure ItemStatus where
  key : ItemKey
  location : Location

namespace Database

def summary? (db : Database) (projectId : Int64) : Option CheckSummary :=
  (db.runOf? projectId).map fun run =>
    let task := run.taskId.bind db.tasks.get?
    { projectId, run, taskStatus := task.map Task.status,
      latestMessage := task.bind Task.latestMessage }

/-- The assets of a project, then its internal tile servers. -/
def itemStatuses (db : Database) (projectId : Int64) : List ItemStatus :=
  (db.assetsOf projectId).map (fun asset => { key := asset.key, location := asset.location })
    ++ ((db.tileServersOf projectId).filter TileServer.internal).map
      (fun server => { key := server.key, location := server.location })

end Database

namespace Check

variable {m : Type -> Type} [Monad m]

def summary? (vault : Vault m) (projectId : Int64) : Attempt m (Option CheckSummary) :=
  return (<- vault.snapshot).summary? projectId

/-- The tracked items of a project that have a location of interest. -/
def itemStatuses (vault : Vault m) (projectId : Int64) : Attempt m (List ItemStatus) :=
  return (<- vault.snapshot).itemStatuses projectId

end Check
end Whereabouts
