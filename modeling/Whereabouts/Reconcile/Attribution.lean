import Whereabouts.FileIndex.Survey
import Whereabouts.Reconcile.Bench

/-!
# Attribution

Which external project an item belongs to: the one that its path names when it is
published, and otherwise the one that its owning system is linked to.
-/

namespace Whereabouts
namespace Surveyor

variable {m : Type -> Type} [Monad m]

/-- The external project of a project's own system; no other system has one, and
none is asked for. -/
def projectOf (surveyor : Surveyor m) (system : String) : Step m (Option String) :=
  match surveyor.engine.projectUuid? system with
  | none => return none
  | some _ => Step.recallExternalId system (.call (surveyor.storage.externalId system))

/-- The project that a published item's path names. -/
def publishedProject? (surveyor : Surveyor m) (loc : Location) : Option String :=
  match loc.currentSystem with
  | none => none
  | some system =>
      if surveyor.engine.isPublicSystem system then
        loc.currentPath.bind RemotePath.publishedProject?
      else
        none

/-- The system that is asked for an item's project. -/
def owningSystem? (surveyor : Surveyor m) (loc : Location) : Option String :=
  match loc.currentSystem with
  | none => loc.originSystem
  | some system =>
      if (surveyor.engine.projectUuid? system).isSome then some system
      else loc.originSystem

/-- Sets the external project of the item at hand, when it can be told. -/
def assignProject (surveyor : Surveyor m) : Step m Unit := do
  let loc <- Step.location
  match surveyor.publishedProject? loc with
  | some id => Step.setLocation (loc.withExternalId id)
  | none =>
      match surveyor.owningSystem? loc with
      | none => return ()
      | some system =>
          match <- surveyor.projectOf system with
          | some id => Step.setLocation (loc.withExternalId id)
          | none => return ()

end Surveyor
end Whereabouts
