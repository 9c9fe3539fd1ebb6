import Whereabouts.Command.Host
import Whereabouts.Command.Report

/-!
# Commands on checks

Queueing a check, running it, and showing the latest one.
-/

namespace Whereabouts
namespace Command

variable {m : Type -> Type} [Monad m]

def flagText (value : Bool) : String :=
  if value then "true" else "false"

def startCheck (ctx : CommandContext m) (projectId : Int64) (force : Bool) :
    Attempt m Report := do
  let started <- Check.start ctx.vault ctx.clock projectId force
  let runText := "run_id=" ++ Fault.idText started.runId
  let taskDetails := match started.taskId with
    | some id => ["task_id=" ++ Fault.idText id]
    | none => []
  let details := ["project_id=" ++ Fault.idText projectId, runText] ++ taskDetails
    ++ ["already_running=" ++ flagText started.alreadyRunning]
  let status := if started.alreadyRunning then "already-running" else "queued"
  ctx.trail.append
    { phase := "start-check", status, projectId := some projectId, message := runText }
  return (Report.start "start-check").withDetails details

def failureText (failure : ItemFailure) : String :=
  "failed " ++ failure.key.kind.text ++ " id=" ++ Fault.idText failure.key.id
    ++ " path=" ++ failure.path ++ " error=" ++ failure.error

def outcomeDetails (outcome : CheckOutcome) : List String :=
  let run := match outcome.runId with
    | some id => ["run_id=" ++ Fault.idText id]
    | none => []
  ["project_id=" ++ Fault.idText outcome.projectId] ++ run
    ++ ["status=" ++ outcome.status.text,
      "total_items=" ++ Text.natText outcome.totalItems.toNat,
      "items_checked=" ++ Text.natText outcome.itemsChecked.toNat,
      "items_failed=" ++ Text.natText outcome.failures.length]
    ++ outcome.failures.map failureText
    ++ ["message=" ++ outcome.message]

/-- Runs the queued check of a project and adds its outcome to a report. -/
def runQueued (ctx : CommandContext m) (settings : Settings) (report : Report)
    (projectId userId : Int64) : Attempt m Report := do
  let checker := ctx.checker settings
  let outcome <- ExceptT.mk do
    return (<- checker.conduct projectId userId .empty (ctx.connect settings)).1
  let described := report.withDetails (outcomeDetails outcome)
  if outcome.status = .failed then
    return described.withIssue outcome.message
  else
    return described

def run (ctx : CommandContext m) (projectId userId : Int64) : Attempt m Report := do
  let settings <- ctx.settings
  let report := Report.start "run"
  if <- Check.isRunning ctx.vault projectId then
    runQueued ctx settings report projectId userId
  else
    return report.withIssue
      ("no queued check for project " ++ Fault.idText projectId ++ "; run start-check first")

def check (ctx : CommandContext m) (projectId userId : Int64) : Attempt m Report := do
  let settings <- ctx.settings
  let report := Report.start "check"
  let started <- Check.start ctx.vault ctx.clock projectId false
  if started.alreadyRunning then
    return (report.withDetails ["run_id=" ++ Fault.idText started.runId]).withIssue
      ("a check is already running for project " ++ Fault.idText projectId)
  else
    runQueued ctx settings report projectId userId

def orDash {α : Type} (write : α -> String) (value : Option α) : String :=
  match value with
  | some value => write value
  | none => "-"

def summaryDetails (summary : CheckSummary) : List String :=
  let run := summary.run
  ["project_id=" ++ Fault.idText summary.projectId,
    "run_id=" ++ Fault.idText run.id,
    "running=" ++ flagText run.isRunning,
    "started_at=" ++ run.startedAt.offsetText,
    "completed_at=" ++ orDash Instant.offsetText run.completedAt,
    "total_items=" ++ Text.natText run.totalItems.toNat,
    "items_checked=" ++ Text.natText run.itemsChecked.toNat,
    "items_failed=" ++ Text.natText run.itemsFailed.toNat,
    "task_id=" ++ orDash Fault.idText run.taskId,
    "task_status=" ++ orDash TaskStatus.text summary.taskStatus,
    "latest_message=" ++ orDash id summary.latestMessage]

def itemText (item : ItemStatus) : String :=
  let loc := item.location
  item.key.kind.text ++ " id=" ++ Fault.idText item.key.id
    ++ " public=" ++ orDash flagText loc.isPublic
    ++ " system=" ++ orDash id loc.currentSystem
    ++ " path=" ++ orDash id loc.currentPath
    ++ " external_project_id=" ++ orDash id loc.externalId
    ++ " last_checked_at=" ++ orDash Instant.offsetText loc.checkedAt

/-- Shows the latest check of a project, with its items when `files` is set. -/
def status (host : Host m) (places : Places) (projectId : Int64) (files : Bool) :
    Attempt m Report := do
  let report := (Report.start "status").withDetails ["store_file=" ++ places.storeFile]
  match <- Check.summary? (host.vault places) projectId with
  | none =>
      return report.withIssue ("no check recorded for project " ++ Fault.idText projectId)
  | some summary =>
      let described := report.withDetails (summaryDetails summary)
      if files then
        let items <- Check.itemStatuses (host.vault places) projectId
        return described.withDetails (items.map itemText)
      else
        return described

end Command
end Whereabouts
