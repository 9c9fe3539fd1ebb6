import Mathlib.Tactic.Common
import Whereabouts.Proofs.Searches

/-!
# What repairs do

A repair fills in what is missing of a location and changes nothing that is recorded.  It
fills the origin as a pair, completes the current place only with the origin, and reports
exactly what it did.  While the answers of remote storage stay the same there is nothing to
repair after a repair.
-/

namespace Whereabouts

variable {ω : Type}

/-!
## Mended locations
-/

/-- What repairs do to the origin of a location: a recorded part stays, a path is added
only to a pair, and each of two searches is told by what it added. -/
structure Location.OriginMended (loc next : Location) (path system : Bool) : Prop where
  systemKept : forall recorded, loc.originSystem = some recorded ->
    next.originSystem = some recorded
  pathKept : forall recorded, loc.originPath = some recorded -> next.originPath = some recorded
  paired : forall found, loc.originPath = none -> next.originPath = some found ->
    exists owner, next.originSystem = some owner
  pathReported : path = true <-> next.originPath ≠ loc.originPath
  systemReported : system = true <->
    next.originPath = loc.originPath ∧ next.originSystem ≠ loc.originSystem

/-- What repairs do to the current place of a location: a recorded part stays, a whole or
missing place stays whole or missing, and half a place stays as it is or becomes the
origin. -/
structure Location.CurrentMended (loc next : Location) (current : Bool) : Prop where
  systemKept : forall recorded, loc.currentSystem = some recorded ->
    next.currentSystem = some recorded
  pathKept : forall recorded, loc.currentPath = some recorded -> next.currentPath = some recorded
  whole : loc.currentSystem.isSome = loc.currentPath.isSome ->
    next.currentSystem.isSome = next.currentPath.isSome
  half : loc.currentSystem.isSome ≠ loc.currentPath.isSome ->
    (next.currentSystem = loc.currentSystem ∧ next.currentPath = loc.currentPath) ∨
      exists system path, next.originSystem = some system ∧ next.originPath = some path ∧
        next.currentSystem = some system ∧ next.currentPath = some path
  reported : current = true <->
    next.currentSystem ≠ loc.currentSystem ∨ next.currentPath ≠ loc.currentPath

/-- Two locations that differ in their origin and their current place at most. -/
structure Location.SameOthers (loc next : Location) : Prop where
  externalId : next.externalId = loc.externalId
  isPublic : next.isPublic = loc.isPublic
  checkedAt : next.checkedAt = loc.checkedAt

/-- What repairs do to a location, and how they report it. -/
structure Location.Mended (loc next : Location) (repairs : Repairs) : Prop where
  origin : loc.OriginMended next repairs.originPath repairs.originSystem
  current : loc.CurrentMended next repairs.current
  others : loc.SameOthers next

variable {loc mid next : Location} {path system : Bool} {repairs : Repairs}

/-- Some repair is reported exactly when the location changed. -/
theorem Location.Mended.any_iff (h : loc.Mended next repairs) :
    repairs.any = true <-> next ≠ loc := by
  have hchanged : next ≠ loc <->
      next.originPath ≠ loc.originPath ∨ next.originSystem ≠ loc.originSystem ∨
        next.currentSystem ≠ loc.currentSystem ∨ next.currentPath ≠ loc.currentPath := by
    rcases h.others with ⟨hid, hpublic, hchecked⟩
    cases loc
    cases next
    simp only at hid hpublic hchecked
    simp only [ne_eq, Location.mk.injEq, hid, hpublic, hchecked]
    tauto
  unfold Repairs.any
  rw [Bool.or_eq_true, Bool.or_eq_true, h.origin.pathReported, h.origin.systemReported,
    h.current.reported, hchanged]
  tauto

theorem Location.SameOrigin.originMended (h : mid.SameOrigin next)
    (hmid : loc.OriginMended mid path system) : loc.OriginMended next path system where
  systemKept := by rw [h.system]; exact hmid.systemKept
  pathKept := by rw [h.path]; exact hmid.pathKept
  paired := by rw [h.system, h.path]; exact hmid.paired
  pathReported := by rw [h.path]; exact hmid.pathReported
  systemReported := by rw [h.system, h.path]; exact hmid.systemReported

/-!
## The two searches
-/

/-- What the two searches of a repair make of a location. -/
inductive Originated (loc : Location) : (path system : Bool) -> Location -> Prop
  | kept : Originated loc false false loc
  | path {owner found : String} (hpath : loc.originPath = none)
      (hsystem : forall recorded, loc.originSystem = some recorded -> recorded = owner) :
      Originated loc true false (loc.withOrigin owner found)
  | system {owner recorded : String} (hsystem : loc.originSystem = none)
      (hpath : loc.originPath = some recorded) :
      Originated loc false true (loc.withOrigin owner recorded)

theorem Originated.mended (h : Originated loc path system mid) :
    loc.OriginMended mid path system := by
  cases h with
  | kept =>
      refine ⟨fun _ h => h, fun _ h => h, ?_, by simp, by simp⟩
      intro found hnone hfound
      rw [hnone] at hfound
      cases hfound
  | path hpath hsystem =>
      refine ⟨?_, ?_, fun _ _ _ => ⟨_, rfl⟩, ?_, ?_⟩
      · intro recorded hrecorded
        rw [hsystem recorded hrecorded]
        rfl
      · intro recorded hrecorded
        rw [hpath] at hrecorded
        cases hrecorded
      · simp [Location.withOrigin, hpath]
      · simp [Location.withOrigin, hpath]
  | system hsystem hpath =>
      refine ⟨?_, ?_, fun _ _ _ => ⟨_, rfl⟩, ?_, ?_⟩
      · intro recorded hrecorded
        rw [hsystem] at hrecorded
        cases hrecorded
      · intro recorded hrecorded
        rw [← hrecorded, hpath]
        rfl
      · simp [Location.withOrigin, hpath]
      · simp [Location.withOrigin, hpath, hsystem]

theorem Originated.current (h : Originated loc path system mid) :
    mid.currentSystem = loc.currentSystem ∧ mid.currentPath = loc.currentPath ∧
      loc.SameOthers mid := by
  cases h <;> exact ⟨rfl, rfl, rfl, rfl, rfl⟩

section Searches

variable {surveyor : Surveyor (StateM ω)} {provenance : Provenance} {asset : Asset}
  {bench sourced owned : Bench} {world between final : ω}

open Surveyor

theorem missingSource?_congr (h : loc.SameOrigin next) :
    missingSource? provenance asset next = missingSource? provenance asset loc := by
  unfold missingSource?
  rw [h.system, h.path]

theorem missingSystem?_congr (h : loc.SameOrigin next) :
    missingSystem? provenance next = missingSystem? provenance loc := by
  unfold missingSystem?
  rw [h.system, h.path]

theorem originated_of_searches
    (hsource : surveyor.SourceSearch provenance asset bench world (.ok path) sourced between)
    (hsystem : surveyor.SystemSearch provenance sourced between (.ok system) owned final) :
    Originated bench.location path system owned.location := by
  have howned : (system = false ∧ owned.location = sourced.location) ∨
      exists recorded owner, system = true ∧
        missingSystem? provenance sourced.location = some (recorded, owner) ∧
        owned.location = sourced.location.withOrigin owner recorded := by
    cases hsystem with
    | idle | empty | gone => exact Or.inl ⟨rfl, rfl⟩
    | confirmed hmissing => exact Or.inr ⟨_, _, rfl, hmissing, rfl⟩
  have hkept : sourced.location = bench.location ->
      Originated bench.location false system owned.location := by
    intro hsame
    rcases howned with ⟨rfl, hlocation⟩ | ⟨recorded, owner, rfl, hmissing, hlocation⟩
    · rw [hlocation, hsame]
      exact .kept
    · rw [hsame] at hmissing hlocation
      rcases missingSystem?_eq_some_iff.mp hmissing with ⟨hnone, hpath, _⟩
      rw [hlocation]
      exact .system hnone hpath
  cases hsource with
  | idle | unheard | gone => exact hkept rfl
  | confirmed hpoints =>
      rcases hpoints with ⟨hmissing, _, _⟩
      rcases of_missingSource?_eq_some hmissing with ⟨_, hpath, hagrees, _⟩
      rcases howned with ⟨rfl, hlocation⟩ | ⟨recorded, owner, _, hmissing', _⟩
      · rw [hlocation]
        exact .path hpath hagrees
      · rcases missingSystem?_eq_some_iff.mp hmissing' with ⟨hnone, _⟩
        cases hnone

end Searches

/-!
## The completion
-/

theorem completion?_agrees {place : String × String}
    (h : Surveyor.completion? loc = some place) :
    (forall recorded, loc.currentSystem = some recorded -> recorded = place.1) ∧
      (forall recorded, loc.currentPath = some recorded -> recorded = place.2) ∧
      ¬ (loc.currentSystem.isSome = true ∧ loc.currentPath.isSome = true) := by
  unfold Surveyor.completion? at h
  cases hsystem : loc.currentSystem <;> cases hpath : loc.currentPath <;>
    rw [hsystem, hpath] at h
  case none.none => simp
  case none.some recorded =>
      dsimp only at h
      split at h
      · rcases Option.map_eq_some_iff.mp h with ⟨system, _, rfl⟩
        simp
      · cases h
  case some.none recorded =>
      dsimp only at h
      split at h
      · rcases Option.map_eq_some_iff.mp h with ⟨file, _, rfl⟩
        simp
      · cases h
  case some.some => cases h

theorem currentMended_filled (loc : Location) :
    loc.CurrentMended (Surveyor.filled loc) (Surveyor.completion? loc).isSome := by
  rw [filled_eq]
  cases hplace : Surveyor.completion? loc with
  | none => exact ⟨fun _ h => h, fun _ h => h, fun h => h, fun _ => Or.inl ⟨rfl, rfl⟩, by simp⟩
  | some place =>
      rcases of_completion?_eq_some hplace with ⟨horigin, hfile⟩
      rcases completion?_agrees hplace with ⟨hsystem, hpath, hmissing⟩
      refine ⟨?_, ?_, fun _ => rfl, fun _ => Or.inr ⟨place.1, place.2, horigin, hfile, rfl, rfl⟩,
        ?_⟩
      · intro recorded hrecorded
        rw [hsystem recorded hrecorded]
        rfl
      · intro recorded hrecorded
        rw [hpath recorded hrecorded]
        rfl
      · refine ⟨fun _ => ?_, fun _ => rfl⟩
        by_contra hsame
        rw [not_or, not_not, not_not] at hsame
        apply hmissing
        rw [← hsame.1, ← hsame.2]
        exact ⟨rfl, rfl⟩

theorem Originated.repaired (h : Originated loc path system mid) :
    loc.Mended (Surveyor.filled mid) ⟨path, system, (Surveyor.completion? mid).isSome⟩ := by
  rcases h.current with ⟨hsystem, hpath, hothers⟩
  have horigin := filled_sameOrigin mid
  refine ⟨horigin.originMended h.mended, ?_, ?_⟩
  · rcases currentMended_filled mid with ⟨hkept, hkept', hwhole, hhalf, hreported⟩
    rw [hsystem] at hkept hwhole hhalf hreported
    rw [hpath] at hkept' hwhole hhalf hreported
    exact ⟨hkept, hkept', hwhole, hhalf, hreported⟩
  · rw [filled_eq]
    cases Surveyor.completion? mid with
    | none => exact hothers
    | some place => exact ⟨hothers.externalId, hothers.isPublic, hothers.checkedAt⟩

/-!
## Nothing left to repair
-/

/-- Nothing is left to repair at a location, as far as some known indices and fixed answers
of remote storage tell. -/
structure NothingToRepair (answers : Storage Id) (provenance : Provenance) (asset : Asset)
    (owners : OrderedMap String FileIndex) (loc : Location) : Prop where
  source : forall name owner,
    Surveyor.missingSource? provenance asset loc = some (name, owner) ->
      exists index, owners.get? owner = some index ∧
        forall found, index.resolve? name = some found -> exists place file,
          (answers.stat owner (RemotePath.absolute found)).run.run =
            .error (.notListable place file)
  system : forall path owner, Surveyor.missingSystem? provenance loc = some (path, owner) ->
    (answers.list owner path).run.run = .ok [] ∨
      exists place file, (answers.list owner path).run.run = .error (.notListable place file)
  current : Surveyor.completion? loc = none

theorem NothingToRepair.mono {answers : Storage Id} {provenance : Provenance} {asset : Asset}
    {owners later : OrderedMap String FileIndex}
    (h : NothingToRepair answers provenance asset owners loc)
    (hkept : owners.KeptIn later) : NothingToRepair answers provenance asset later loc where
  source := by
    intro name owner hmissing
    rcases h.source name owner hmissing with ⟨index, hindex, hgone⟩
    exact ⟨index, hkept owner index hindex, hgone⟩
  system := h.system
  current := h.current

section Exhaustion

variable {surveyor : Surveyor (StateM ω)} {answers : Storage Id} {provenance : Provenance}
  {asset : Asset} {bench after sourced owned : Bench} {world between final : ω}

open Surveyor

theorem nothingToRepair_of_searches (hfollows : surveyor.storage.Follows answers)
    (hsource : surveyor.SourceSearch provenance asset bench world (.ok path) sourced between)
    (hsystem : surveyor.SystemSearch provenance sourced between (.ok system) owned final) :
    NothingToRepair answers provenance asset owned.caches.owners (filled owned.location) := by
  have horigin := filled_sameOrigin owned.location
  refine ⟨?_, ?_, completion?_filled _⟩
  · intro name owner hmissing
    rw [missingSource?_congr horigin] at hmissing
    have hpath := (of_missingSource?_eq_some hmissing).2.1
    have howned : owned = sourced := by
      cases hsystem with
      | idle => rfl
      | confirmed => cases hpath
      | empty | gone => rfl
    rw [howned] at hmissing hpath ⊢
    cases hsource with
    | idle hidle => rw [hidle] at hmissing; cases hmissing
    | confirmed => cases hpath
    | unheard hmissing' hindex hnone =>
        rw [hmissing'] at hmissing
        cases hmissing
        refine ⟨_, hindex.get?, fun found hfound => ?_⟩
        rw [hnone] at hfound
        cases hfound
    | gone hpoints hstat =>
        have hanswer := congrArg Prod.fst hstat
        rw [hfollows.stat] at hanswer
        rcases hpoints with ⟨hmissing', hindex, hfound⟩
        rw [hmissing'] at hmissing
        cases hmissing
        refine ⟨_, hindex.get?, fun other hother => ?_⟩
        rw [hfound] at hother
        cases hother
        exact ⟨_, _, hanswer⟩
  · intro recorded owner hmissing
    rw [missingSystem?_congr horigin] at hmissing
    have hanswer := hfollows.list owner recorded between
    cases hsystem with
    | idle hidle => rw [hidle] at hmissing; cases hmissing
    | confirmed =>
        cases (missingSystem?_eq_some_iff.mp hmissing).1
    | empty hmissing' hlist =>
        rw [hmissing'] at hmissing
        cases hmissing
        rw [hlist] at hanswer
        exact Or.inl hanswer.symm
    | gone hmissing' hlist =>
        rw [hmissing'] at hmissing
        cases hmissing
        rw [hlist] at hanswer
        exact Or.inr ⟨_, _, hanswer.symm⟩

theorem NothingToRepair.sourceSearch {result : Except StorageError Bool}
    (h : NothingToRepair answers provenance asset bench.caches.owners bench.location)
    (hfollows : surveyor.storage.Follows answers)
    (hsource : surveyor.SourceSearch provenance asset bench world result sourced between) :
    result = .ok false ∧ sourced = bench := by
  have hpoints : forall {owner path : String} {caches : Caches} {asked : ω},
      surveyor.Points provenance asset bench world owner path caches asked ->
      caches = bench.caches ∧ exists place file,
        ((surveyor.storage.stat owner path).run.run asked).1 =
          .error (.notListable place file) := by
    intro owner path caches asked hpoints
    cases hpoints with
    | intro hmissing hindex hfound =>
        rcases h.source _ _ hmissing with ⟨known, hknown, hgone⟩
        rcases hindex.of_known hknown with ⟨rfl, hcaches⟩
        rcases hgone _ hfound with ⟨place, file, hanswer⟩
        exact ⟨hcaches, place, file, (hfollows.stat ..).trans hanswer⟩
  cases hsource with
  | idle => exact ⟨rfl, rfl⟩
  | unheard hmissing hindex =>
      rcases h.source _ _ hmissing with ⟨known, hknown, _⟩
      rw [(hindex.of_known hknown).2]
      exact ⟨rfl, rfl⟩
  | gone hfound =>
      rw [(hpoints hfound).1]
      exact ⟨rfl, rfl⟩
  | confirmed hfound hstat =>
      rcases hpoints hfound with ⟨_, place, file, hanswer⟩
      rw [hstat] at hanswer
      cases hanswer
  | failed hfound hstat hfailure =>
      rcases hpoints hfound with ⟨_, place, file, hanswer⟩
      rw [hstat] at hanswer
      cases hanswer
      exact absurd rfl (hfailure place file)

theorem NothingToRepair.systemSearch {result : Except StorageError Bool}
    {owners : OrderedMap String FileIndex}
    (h : NothingToRepair answers provenance asset owners bench.location)
    (hfollows : surveyor.storage.Follows answers)
    (hsystem : surveyor.SystemSearch provenance bench world result owned final) :
    result = .ok false ∧ owned = bench := by
  have hlisted : forall {path owner : String},
      missingSystem? provenance bench.location = some (path, owner) ->
      ((surveyor.storage.list owner path).run.run world).1 = .ok [] ∨
        exists place file,
          ((surveyor.storage.list owner path).run.run world).1 =
            .error (.notListable place file) := by
    intro path owner hmissing
    rw [hfollows.list]
    exact h.system _ _ hmissing
  cases hsystem with
  | idle => exact ⟨rfl, rfl⟩
  | empty => exact ⟨rfl, rfl⟩
  | gone => exact ⟨rfl, rfl⟩
  | confirmed hmissing hlist =>
      rcases hlisted hmissing with hempty | ⟨place, file, hgone⟩
      · rw [hlist] at hempty
        cases hempty
      · rw [hlist] at hgone
        cases hgone
  | failed hmissing hlist hfailure =>
      rcases hlisted hmissing with hempty | ⟨place, file, hgone⟩
      · rw [hlist] at hempty
        cases hempty
      · rw [hlist] at hgone
        cases hgone
        exact absurd rfl (hfailure place file)

/-- Where nothing is left to repair, a repair ends well and does nothing. -/
theorem NothingToRepair.rests
    (h : NothingToRepair answers provenance asset bench.caches.owners bench.location)
    (hfollows : surveyor.storage.Follows answers) (world : ω) :
    exists last, (surveyor.repair provenance asset).amid bench world =
      ((.ok ⟨false, false, false⟩, bench), last) := by
  rcases hrun : (surveyor.repair provenance asset).amid bench world with ⟨⟨result, after⟩, last⟩
  cases result with
  | error failure =>
      rcases repair_error_cases hrun with hsource | ⟨_, sourced, between, hsource, hsystem⟩
      · cases (h.sourceSearch hfollows hsource).1
      · rcases h.sourceSearch hfollows hsource with ⟨_, rfl⟩
        cases (h.systemSearch hfollows hsystem).1
  | ok repairs =>
      rcases repair_ok_cases hrun with
        ⟨sourced, between, owned, hsource, hsystem, hcurrent, hafter⟩
      rcases h.sourceSearch hfollows hsource with ⟨hpath, rfl⟩
      rcases h.systemSearch hfollows hsystem with ⟨howner, rfl⟩
      rw [h.current] at hcurrent
      rw [filled_eq, h.current] at hafter
      rcases repairs with ⟨path, system, current⟩
      cases hpath
      cases howner
      cases hcurrent
      exact ⟨last, by rw [hafter]⟩

/-- A repair that ends well mends the location and reports how; with answers that do not
change a further one, also after more indices became known, has nothing to do. -/
theorem repair_mends
    (hrun : (surveyor.repair provenance asset).amid bench world =
      ((.ok repairs, after), final)) :
    bench.location.Mended after.location repairs ∧
      (repairs.any = true <-> after.location ≠ bench.location) ∧
      forall answers, surveyor.storage.Follows answers -> forall later : Bench,
        later.location = after.location -> after.caches.owners.KeptIn later.caches.owners ->
        forall again, exists last, (surveyor.repair provenance asset).amid later again =
          ((.ok ⟨false, false, false⟩, later), last) := by
  rcases repair_ok_cases hrun with
    ⟨sourced, between, owned, hsource, hsystem, hcurrent, rfl⟩
  have hmended : bench.location.Mended (filled owned.location) repairs := by
    rcases repairs with ⟨path, system, current⟩
    cases hcurrent
    exact (originated_of_searches hsource hsystem).repaired
  refine ⟨hmended, hmended.any_iff, ?_⟩
  intro answers hfollows later hlocation howners again
  have hnothing :
      NothingToRepair answers provenance asset later.caches.owners later.location := by
    rw [hlocation]
    exact (nothingToRepair_of_searches hfollows hsource hsystem).mono howners
  exact hnothing.rests hfollows again

end Exhaustion

namespace Sample

def clouded : Provenance where
  project := { id := 1, name := "p", systemId := some "project-a" }
  pointClouds := .ofList
    [(1, { id := 1, projectId := 1, files := [{ name := "scan.laz", size := none }] })]

/-- A point cloud of which nothing but its current system is recorded. -/
def cloud : Asset where
  id := 1
  featureId := 1
  projectId := 1
  assetType := .pointCloud
  pointCloudId := some 1
  location := { Location.unknown with currentSystem := some "project-a" }

def cloudShelf : Storage Id where
  list := fun system path =>
    if path = "/" then .ok [scan] else .error (.notListable system path)
  stat := fun _ _ => .ok scan
  externalId := fun _ => .ok none
where
  scan : Entry := { name := "scan.laz", path := "scan.laz", kind := .file, size := none }

def cloudSurveyor : Surveyor (StateM Unit) where
  storage := .answering cloudShelf
  engine := .standard
  depth := 4

def cloudRepair : (Except StorageError Repairs × Bench) × Unit :=
  (cloudSurveyor.repair clouded cloud).amid { location := cloud.location, caches := .empty } ()

end Sample

/-- The origin is found with its path, which completes the current place; after that there
is nothing to repair. -/
theorem repair_mends_cloud :
    exists after, Sample.cloudRepair = ((.ok ⟨true, false, true⟩, after), ()) ∧
      Sample.cloud.location.Mended after.location ⟨true, false, true⟩ ∧
      after.location = { Location.unknown with
        originSystem := some "project-a", originPath := some "/scan.laz",
        currentSystem := some "project-a", currentPath := some "/scan.laz" } ∧
      (Sample.cloudSurveyor.repair Sample.clouded Sample.cloud).amid after () =
        ((.ok ⟨false, false, false⟩, after), ()) := by
  have hresult : Sample.cloudRepair.1.1 = .ok ⟨true, false, true⟩ := by decide +kernel
  have hlocation : Sample.cloudRepair.1.2.location = { Location.unknown with
      originSystem := some "project-a", originPath := some "/scan.laz",
      currentSystem := some "project-a", currentPath := some "/scan.laz" } := by
    decide +kernel
  rcases hrun : Sample.cloudRepair with ⟨⟨result, after⟩, last⟩
  rw [hrun] at hresult hlocation
  cases hresult
  rcases repair_mends hrun with ⟨hmended, _, hrest⟩
  rcases hrest Sample.cloudShelf (Storage.answering_follows _) after rfl (.refl _) () with
    ⟨_, hagain⟩
  exact ⟨after, rfl, hmended, hlocation, hagain⟩

end Whereabouts
