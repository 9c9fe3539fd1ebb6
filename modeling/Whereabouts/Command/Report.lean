import Whereabouts.Json.Printer
import Whereabouts.Text.Pieces

/-!
# Reports

What a command tells its user: details, and issues, which make it a failure.
-/

namespace Whereabouts

structure Report where
  command : String
  details : List String
  issues : List String
  deriving DecidableEq, Inhabited

namespace Report

def start (command : String) : Report where
  command := command
  details := []
  issues := []

def isOk (report : Report) : Bool :=
  report.issues.isEmpty

def withDetails (report : Report) (details : List String) : Report :=
  { report with details := report.details ++ details }

def withIssue (report : Report) (issue : String) : Report :=
  { report with issues := report.issues ++ [issue] }

def toJson (report : Report) : Json :=
  .obj
    [("command", .str report.command),
      ("ok", .bool report.isOk),
      ("details", .arr (report.details.map .str)),
      ("issues", .arr (report.issues.map .str))]

/-- A report as text, one line for each part. -/
def text (report : Report) : String :=
  let state := if report.isOk then "ok" else "failed"
  String.join <|
    (report.command ++ ": " ++ state ++ "\n")
      :: report.details.map (fun detail => "  " ++ detail ++ "\n")
      ++ report.issues.map (fun issue => "  issue: " ++ issue ++ "\n")

end Report
end Whereabouts
