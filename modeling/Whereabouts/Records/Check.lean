import Whereabouts.Records.Location

/-!
# Runs and tasks

The state of a project's check: one run row for each project, which is reused,
and a task row for every start, which shows progress to the user.
-/

namespace Whereabouts

inductive TaskStatus where
  | queued
  | running
  | completed
  | failed
  deriving DecidableEq, Inhabited

namespace TaskStatus

def text : TaskStatus -> String
  | queued => "QUEUED"
  | running => "RUNNING"
  | completed => "COMPLETED"
  | failed => "FAILED"

def named : List (String × TaskStatus) :=
  [queued, running, completed, failed].map fun status => (status.text, status)

def isTerminal : TaskStatus -> Bool
  | completed => true
  | failed => true
  | _ => false

end TaskStatus

/-- What a user sees of a check. -/
structure Task where
  id : Int64
  processId : String
  status : TaskStatus
  description : String
  projectId : Int64
  latestMessage : Option String
  created : Instant
  updated : Option Instant
  deriving DecidableEq, Inhabited

/-- The latest check of a project and its counters. -/
structure Run where
  id : Int64
  projectId : Int64
  taskId : Option Int64
  startedAt : Instant
  completedAt : Option Instant
  totalItems : UInt64
  itemsChecked : UInt64
  itemsFailed : UInt64
  deriving DecidableEq, Inhabited

namespace Task

def toJson (task : Task) : Json :=
  .obj
    [("id", Json.ofInt64 task.id),
      ("process_id", .str task.processId),
      ("status", .str task.status.text),
      ("description", .str task.description),
      ("project_id", Json.ofInt64 task.projectId),
      ("latest_message", Json.ofOption .str task.latestMessage),
      ("created", Json.ofInstant task.created),
      ("updated", Json.ofOption Json.ofInstant task.updated)]

def ofJson? (value : Json) : Option Task := do
  let fields <- value.fields?
    ["id", "process_id", "status", "description", "project_id", "latest_message", "created",
      "updated"]
  let id <- fields.required? "id" Json.int64?
  let processId <- fields.required? "process_id" Json.str?
  let status <- fields.required? "status" (Json.case? Json.isNull TaskStatus.named)
  let description <- fields.required? "description" Json.str?
  let projectId <- fields.required? "project_id" Json.int64?
  let latestMessage <- fields.optional? "latest_message" Json.str?
  let created <- fields.required? "created" Json.instant?
  let updated <- fields.optional? "updated" Json.instant?
  return { id, processId, status, description, projectId, latestMessage, created, updated }

/-- The task with another status and message, stamped with a time. -/
def progressed (task : Task) (status : TaskStatus) (message : String) (time : Instant) :
    Task :=
  { task with status := status, latestMessage := some message, updated := some time }

end Task

namespace Run

def isRunning (run : Run) : Bool :=
  run.completedAt.isNone

def toJson (run : Run) : Json :=
  .obj
    [("id", Json.ofInt64 run.id),
      ("project_id", Json.ofInt64 run.projectId),
      ("task_id", Json.ofOption Json.ofInt64 run.taskId),
      ("started_at", Json.ofInstant run.startedAt),
      ("completed_at", Json.ofOption Json.ofInstant run.completedAt),
      ("total_items", Json.ofUInt64 run.totalItems),
      ("items_checked", Json.ofUInt64 run.itemsChecked),
      ("items_failed", Json.ofUInt64 run.itemsFailed)]

def ofJson? (value : Json) : Option Run := do
  let fields <- value.fields?
    ["id", "project_id", "task_id", "started_at", "completed_at", "total_items",
      "items_checked", "items_failed"]
  let id <- fields.required? "id" Json.int64?
  let projectId <- fields.required? "project_id" Json.int64?
  let taskId <- fields.optional? "task_id" Json.int64?
  let startedAt <- fields.required? "started_at" Json.instant?
  let completedAt <- fields.optional? "completed_at" Json.instant?
  let totalItems <- fields.orDefault? "total_items" 0 Json.uint64?
  let itemsChecked <- fields.orDefault? "items_checked" 0 Json.uint64?
  let itemsFailed <- fields.orDefault? "items_failed" 0 Json.uint64?
  return { id, projectId, taskId, startedAt, completedAt, totalItems, itemsChecked,
           itemsFailed }

end Run
end Whereabouts
