import Whereabouts.Disk.Basic
import Whereabouts.Records.Item
import Whereabouts.Storage.Basic
import Whereabouts.Settings.Validity

/-!
# Faults

Why an operation as a whole failed: the cause, inside the contexts that were
added on its way up.
-/

namespace Whereabouts

inductive Fault where
  | missingProject (id : Int64)
  | missingUser (id : Int64)
  | missingCredentials (userId : Int64)
  | missingRun (projectId : Int64)
  | missingTask (id : Int64)
  | corruptStore (path detail : String)
  | storage (failure : StorageError)
  | disk (failure : DiskError)
  | notSaved (failure : DiskError)
  | invalidSettings (problem : Settings.Problem)
  | unreadableSettings (path detail : String)
  | noHome
  | itemGone (kind : ItemKind) (id : Int64)
  | noLocalRoot
  | other (text : String)
  | within (context : String) (cause : Fault)
  deriving Inhabited

namespace Fault

def idText (id : Int64) : String :=
  Text.intText id.toInt

/-- The wording of a fault, its contexts in front, the outermost first. -/
def message : Fault -> String
  | missingProject id => "project " ++ idText id ++ " not found"
  | missingUser id => "user " ++ idText id ++ " not found"
  | missingCredentials id => "user " ++ idText id ++ " has no storage credentials"
  | missingRun id => "no reconciliation run recorded for project " ++ idText id
  | missingTask id => "task " ++ idText id ++ " not found"
  | corruptStore path detail =>
      "store file invalid or unreadable: " ++ path ++ ": " ++ detail
  | storage failure => failure.chainMessage
  | disk failure => failure.message
  | notSaved failure =>
      "failed to persist temporary file: " ++ failure.message ++ ": " ++ failure.message
  | invalidSettings problem => problem.message
  | unreadableSettings path detail =>
      "failed to parse locsync config " ++ path ++ ": " ++ detail
  | noHome => "HOME directory could not be resolved"
  | itemGone .asset id => "asset " ++ idText id ++ " no longer exists"
  | itemGone .tileServer id => "tile server " ++ idText id ++ " no longer exists"
  | noLocalRoot => "local storage backend requires a root directory"
  | other text => text
  | within context cause => context ++ ": " ++ cause.message

/-- The cause inside every context. -/
def cause : Fault -> Fault
  | within _ inner => inner.cause
  | fault => fault

end Fault

/-- An operation that may fail as a whole. -/
abbrev Attempt (m : Type -> Type) (α : Type) := ExceptT Fault m α

namespace Attempt

variable {m : Type -> Type} [Monad m] {α : Type}

def within (context : String) (attempt : Attempt m α) : Attempt m α :=
  ExceptT.mk do
    match <- attempt.run with
    | .ok value => return .ok value
    | .error fault => return .error (.within context fault)

def ofFiling (filing : Filing m α) : Attempt m α :=
  ExceptT.mk do
    match <- filing.run with
    | .ok value => return .ok value
    | .error failure => return .error (.disk failure)

def effect (action : m α) : Attempt m α :=
  ExceptT.lift action

/-- The outcome of an operation, which is no fault of the whole any more. -/
def outcome (attempt : Attempt m α) : Attempt m (Except Fault α) :=
  ExceptT.lift attempt.run

end Attempt
end Whereabouts
