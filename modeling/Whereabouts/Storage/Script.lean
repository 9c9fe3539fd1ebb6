import Whereabouts.Storage.Basic
import Whereabouts.Text.Pieces
import Whereabouts.Text.Blank

/-!
# Scripted storage

Storage that answers from a script.  Every call is logged, and the answers to
repeated calls may follow a sequence whose last answer stays.
-/

namespace Whereabouts

/-- A failure as a script gives it; the call supplies the system and the path. -/
inductive ScriptedFailure where
  | notListable
  | status (code : Nat)
  | lookup (reason : String)
  | decode (reason : String)
  | io (reason : String)
  deriving DecidableEq, Inhabited

inductive ScriptedAnswer (α : Type) where
  | absent
  | value (value : α)
  | failure (failure : ScriptedFailure)
  deriving DecidableEq, Inhabited

inductive StorageCall where
  | list (system path : String)
  | stat (system path : String)
  | project (system : String)
  deriving DecidableEq, Inhabited

/-- The answers of scripted storage: for a system and a path without slashes at
its ends, the answers to the first call, the second and so on. -/
structure Script where
  lists : List ((String × String) × List (ScriptedAnswer (List Entry)))
  stats : List ((String × String) × List (ScriptedAnswer Entry))
  ids : List (String × List (ScriptedAnswer String))
  deriving Inhabited

namespace ScriptedFailure

def toError (failure : ScriptedFailure) (system path : String) : StorageError :=
  match failure with
  | notListable => .notListable system path
  | status code => .status system path code
  | lookup reason => .projectLookup system reason
  | decode reason => .decode reason
  | io reason => .io reason

end ScriptedFailure

namespace Script

def empty : Script where
  lists := []
  stats := []
  ids := []

/-- The path without the slashes at its ends. -/
def pathKey (path : String) : String :=
  let isSlash := fun c : Char => decide (c = '/')
  String.ofList (Text.dropEnd isSlash (Text.dropStart isSlash path.toList))

/-- The answer to the call that `earlier` calls of its kind came before. -/
def answerAt {α : Type} (answers : List (ScriptedAnswer α)) (earlier : Nat) :
    ScriptedAnswer α :=
  match answers[earlier]? with
  | some answer => answer
  | none => answers.getLast?.getD .absent

def listedBefore (calls : List StorageCall) (system path : String) : Nat :=
  (calls.filter fun call => match call with
    | .list s p => s == system && pathKey p == pathKey path
    | _ => false).length

def describedBefore (calls : List StorageCall) (system path : String) : Nat :=
  (calls.filter fun call => match call with
    | .stat s p => s == system && pathKey p == pathKey path
    | _ => false).length

def lookedUpBefore (calls : List StorageCall) (system : String) : Nat :=
  (calls.filter fun call => match call with
    | .project s => s == system
    | _ => false).length

def listing (script : Script) (calls : List StorageCall) (system path : String) :
    Except StorageError (List Entry) :=
  let answers := (script.lists.lookup (system, pathKey path)).getD []
  match answerAt answers (listedBefore calls system path) with
  | .value entries => .ok entries
  | .absent => .error (.notListable system path)
  | .failure failure => .error (failure.toError system path)

def description (script : Script) (calls : List StorageCall) (system path : String) :
    Except StorageError Entry :=
  let answers := (script.stats.lookup (system, pathKey path)).getD []
  match answerAt answers (describedBefore calls system path) with
  | .value entry => .ok entry
  | .absent => .error (.notListable system path)
  | .failure failure => .error (failure.toError system path)

def projectId (script : Script) (calls : List StorageCall) (system : String) :
    Except StorageError (Option String) :=
  let answers := (script.ids.lookup system).getD []
  match answerAt answers (lookedUpBefore calls system) with
  | .value id => .ok (some id)
  | .absent => .ok none
  | .failure failure => .error (failure.toError system "")

end Script

/-- Storage that answers from a script and logs its calls, the latest first. -/
def scriptedStorage (script : Script) : Storage (StateM (List StorageCall)) where
  list system path := ExceptT.mk do
    let calls <- get
    set (StorageCall.list system path :: calls)
    return script.listing calls system path
  stat system path := ExceptT.mk do
    let calls <- get
    set (StorageCall.stat system path :: calls)
    return script.description calls system path
  externalId system := ExceptT.mk do
    let calls <- get
    set (StorageCall.project system :: calls)
    return script.projectId calls system

end Whereabouts
