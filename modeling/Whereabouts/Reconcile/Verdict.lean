import Whereabouts.Reconcile.Attribution

/-!
# Verdicts

Whether an item's file can be reached by the public.  A file of a project's own
system that has a copy in the published area moves there.
-/

namespace Whereabouts

inductive Verdict where
  | alreadyPublic
  /-- It has a published copy and was moved there. -/
  | relocated (system path : String)
  | notPublic
  /-- It has no current system; the stored verdict is kept. -/
  | unknown
  deriving DecidableEq, Inhabited

namespace Surveyor

variable {m : Type -> Type} [Monad m]

/-- The index of the published copy of a project's own system, when the system is
linked to an external project. -/
def publishedCopy (surveyor : Surveyor m) (system : String)
    (build : IndexTarget -> m FileIndex := surveyor.build) : Step m (Option FileIndex) :=
  match surveyor.engine.projectUuid? system with
  | none => return none
  | some _ => do
      match <- surveyor.projectOf system with
      | none => return none
      | some id => return some (<- .effect (build (.published system id)))

/-- Decides about the item at hand, and moves it when it has a published copy. -/
def judge (surveyor : Surveyor m) (build : IndexTarget -> m FileIndex := surveyor.build) :
    Step m Verdict := do
  let loc <- Step.location
  match loc.currentSystem with
  | none => return .unknown
  | some system =>
      if surveyor.engine.isPublicSystem system then
        Step.setLocation (loc.withPublic true)
        return .alreadyPublic
      else
        let index <- Step.recallPublished system (surveyor.publishedCopy system build)
        let found := index.bind fun index => loc.currentPath.bind index.resolve?
        match found with
        | none =>
            Step.setLocation (loc.withPublic false)
            return .notPublic
        | some path =>
            let target := surveyor.engine.publishedSystem
            let place := RemotePath.absolute path
            Step.setLocation ((loc.withCurrent target place).withPublic true)
            return .relocated target place

end Surveyor
end Whereabouts
