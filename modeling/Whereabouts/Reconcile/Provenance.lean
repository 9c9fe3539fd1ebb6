import Whereabouts.FileIndex.Survey
import Whereabouts.OrderedMap
import Whereabouts.Reconcile.Bench
import Whereabouts.Records.Item
import Whereabouts.Records.Project

/-!
# Provenance

Repairs of assets whose origin or current place is not recorded in full.  A
part that is recorded is never touched, and a repair that remote storage does not
confirm is not made.
-/

namespace Whereabouts

/-- What a repair may know besides the asset: its project and the point clouds
under their ids. -/
structure Provenance where
  project : Project
  pointClouds : Table PointCloud

structure Repairs where
  originPath : Bool
  originSystem : Bool
  current : Bool
  deriving DecidableEq, Inhabited

def Repairs.any (repairs : Repairs) : Bool :=
  repairs.originPath || repairs.originSystem || repairs.current

namespace Surveyor

variable {m : Type -> Type} [Monad m]

/-- The file name and the owning system to search for the source of a point
cloud whose path of origin is not recorded. -/
def missingSource? (provenance : Provenance) (asset : Asset) (loc : Location) :
    Option (String × String) :=
  if loc.originPath.isSome || asset.assetType != .pointCloud then
    none
  else
    match (asset.pointCloudId.bind provenance.pointClouds.get?).bind PointCloud.sourceName?,
        provenance.project.owningSystem? with
    | some name, some owner =>
        if loc.originSystem.all (fun system => system == owner) then some (name, owner)
        else none
    | _, _ => none

/-- Takes a file of the owning system as the origin of the item at hand, when remote
storage confirms it. -/
def confirmSource (surveyor : Surveyor m) (loc : Location) (owner found : String) :
    Step m Bool := do
  let path := RemotePath.absolute found
  match <- Step.attempt (surveyor.storage.stat owner path) with
  | .ok _ =>
      Step.setLocation (loc.withOrigin owner path)
      return true
  | .error (.notListable _ _) => return false
  | .error failure => throw failure

def recoverSource (surveyor : Surveyor m) (provenance : Provenance) (asset : Asset)
    (build : IndexTarget -> m FileIndex := surveyor.build) : Step m Bool := do
  let loc <- Step.location
  match missingSource? provenance asset loc with
  | none => return false
  | some (name, owner) =>
      let index <- Step.recallOwner owner (.effect (build (.owner owner)))
      match index.resolve? name with
      | none => return false
      | some found => surveyor.confirmSource loc owner found

/-- Adds the owning system to a path of origin that is found there. -/
def recoverSystem (surveyor : Surveyor m) (provenance : Provenance) : Step m Bool := do
  let loc <- Step.location
  match loc.originSystem, loc.originPath, provenance.project.owningSystem? with
  | none, some path, some owner =>
      match <- Step.attempt (surveyor.storage.list owner path) with
      | .ok [] => return false
      | .ok _ =>
          Step.setLocation (loc.withOrigin owner path)
          return true
      | .error (.notListable _ _) => return false
      | .error failure => throw failure
  | _, _, _ => return false

/-- The location with its current place completed from the origin: a missing
place is the origin itself, and half a place is completed when it agrees with that
half of the origin. -/
def completedCurrent? (loc : Location) : Option Location :=
  match loc.currentSystem, loc.currentPath with
  | some _, some _ => none
  | none, none =>
      match loc.originSystem, loc.originPath with
      | some system, some path => some (loc.withCurrent system path)
      | _, _ => none
  | none, some _ =>
      if loc.currentPath = loc.originPath && loc.originSystem.isSome then
        some { loc with currentSystem := loc.originSystem }
      else
        none
  | some _, none =>
      if loc.currentSystem = loc.originSystem && loc.originPath.isSome then
        some { loc with currentPath := loc.originPath }
      else
        none

def fillCurrent : Step m Bool := do
  let loc <- Step.location
  match completedCurrent? loc with
  | some completed =>
      Step.setLocation completed
      return true
  | none => return false

/-- Makes every repair of the asset at hand that can be confirmed. -/
def repair (surveyor : Surveyor m) (provenance : Provenance) (asset : Asset)
    (build : IndexTarget -> m FileIndex := surveyor.build) : Step m Repairs := do
  let originPath <- surveyor.recoverSource provenance asset build
  let originSystem <- surveyor.recoverSystem provenance
  let current <- fillCurrent
  return { originPath, originSystem, current }

end Surveyor
end Whereabouts
