import Whereabouts.FileIndex.Basic
import Whereabouts.Records.Location
import Whereabouts.Storage.Basic

/-!
# The bench

What the steps of a check work on: the location of the item at hand, and three
caches that outlive it.  A step that fails leaves on the bench whatever it had
changed before.
-/

namespace Whereabouts

/-- What was learned from remote storage.  A published index of `none` marks a
system without a published copy, and an external id of `none` a system that is
not linked to a project. -/
structure Caches where
  published : OrderedMap String (Option FileIndex)
  owners : OrderedMap String FileIndex
  externalIds : OrderedMap String (Option String)
  deriving Inhabited

def Caches.empty : Caches where
  published := .empty
  owners := .empty
  externalIds := .empty

structure Bench where
  location : Location
  caches : Caches
  deriving Inhabited

/-- A step of a check: it may fail, and it changes the bench. -/
abbrev Step (m : Type -> Type) (α : Type) := ExceptT StorageError (StateT Bench m) α

namespace Step

variable {m : Type -> Type} [Monad m] {α : Type}

/-- A call of remote storage whose failure is the step's failure. -/
def call (remote : Remote m α) : Step m α :=
  ExceptT.mk (StateT.lift remote.run)

/-- A call of remote storage with its answer, failure or not. -/
def attempt (remote : Remote m α) : Step m (Except StorageError α) :=
  ExceptT.lift (StateT.lift remote.run)

def effect (action : m α) : Step m α :=
  ExceptT.lift (StateT.lift action)

def location : Step m Location :=
  return (<- get).location

def setLocation (loc : Location) : Step m Unit :=
  modify fun bench => { bench with location := loc }

/-- The value remembered for a system, or else the one that `make` finds, which
is remembered from then on.  A failure is not remembered. -/
def remembered (cache : Caches -> OrderedMap String α)
    (keep : OrderedMap String α -> Caches -> Caches) (system : String)
    (make : Step m α) : Step m α := do
  match (cache (<- get).caches).get? system with
  | some value => return value
  | none =>
      let value <- make
      modify fun bench =>
        { bench with caches := keep ((cache bench.caches).insert system value) bench.caches }
      return value

def recallPublished (system : String) (make : Step m (Option FileIndex)) :
    Step m (Option FileIndex) :=
  remembered Caches.published (fun map caches => { caches with published := map }) system make

def recallOwner (system : String) (make : Step m FileIndex) : Step m FileIndex :=
  remembered Caches.owners (fun map caches => { caches with owners := map }) system make

def recallExternalId (system : String) (make : Step m (Option String)) :
    Step m (Option String) :=
  remembered Caches.externalIds (fun map caches => { caches with externalIds := map }) system make

end Step
end Whereabouts
