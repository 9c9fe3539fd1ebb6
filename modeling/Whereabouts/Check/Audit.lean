import Whereabouts.Check.Clock
import Whereabouts.Fault
import Whereabouts.Json.Printer
import Whereabouts.Records.Location

/-!
# The audit trail

A log of what happened to checks, one JSON object a line, which is only ever
added to.
-/

namespace Whereabouts

structure AuditEvent where
  phase : String
  status : String
  projectId : Option Int64
  message : String
  deriving DecidableEq, Inhabited

/-- What takes the events. -/
structure Trail (m : Type -> Type) where
  append : AuditEvent -> Attempt m Unit

namespace AuditEvent

/-- An event as an object; one that is about no project does not name one. -/
def toJson (event : AuditEvent) (time : Instant) : Json :=
  let head : List (Json.Name × Json) :=
    [("at", Json.ofInstant time), ("phase", .str event.phase), ("status", .str event.status)]
  let about : List (Json.Name × Json) := match event.projectId with
    | some id => [("project_id", Json.ofInt64 id)]
    | none => []
  let last : List (Json.Name × Json) := [("message", .str event.message)]
  .obj (head ++ about ++ last)

def line (event : AuditEvent) (time : Instant) : String :=
  (event.toJson time).compact ++ "\n"

end AuditEvent

namespace Trail

variable {m : Type -> Type} [Monad m]

/-- The trail in a directory for logs, which is made when it is missing. -/
def inDirectory (disk : Disk m) (clock : Clock m) (logs : String) : Trail m where
  append event := do
    let time <- Attempt.effect clock.now
    let path := DiskPath.join logs "audit.log"
    Attempt.within ("failed to create " ++ logs)
      (Attempt.ofFiling (disk.makeDirectories logs))
    Attempt.within ("failed to append to " ++ path)
      (Attempt.ofFiling (disk.append path (event.line time)))

end Trail
end Whereabouts
