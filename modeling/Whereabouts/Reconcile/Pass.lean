import Whereabouts.Reconcile.Provenance
import Whereabouts.Reconcile.Verdict

/-!
# Passes

Everything that a check does with one item: the repair of its provenance, which
only assets need, the verdict, and the attribution to an external project.
-/

namespace Whereabouts
namespace Surveyor

variable {m : Type -> Type} [Monad m]

def reconcile (surveyor : Surveyor m) (build : IndexTarget -> m FileIndex := surveyor.build) :
    Step m Verdict := do
  let verdict <- surveyor.judge build
  surveyor.assignProject
  return verdict

def pass (surveyor : Surveyor m) (provenance : Provenance) (item : Tracked)
    (build : IndexTarget -> m FileIndex := surveyor.build) : Step m Verdict :=
  match item with
  | .asset asset => do
      let _ <- surveyor.repair provenance asset build
      surveyor.reconcile build
  | .tileServer _ => surveyor.reconcile build

/-- What a pass over an item at some time gives, with the bench that it leaves. -/
def treat (surveyor : Surveyor m) (provenance : Provenance) (item : Tracked) (time : Instant)
    (caches : Caches) (build : IndexTarget -> m FileIndex := surveyor.build) :
    m (Except StorageError Verdict × Bench) :=
  (surveyor.pass provenance item build).run.run
    { location := item.location.touched time, caches }

end Surveyor
end Whereabouts
