import Whereabouts.Proofs.Repairs

/-!
# Steps that fail

A step of a pass that fails leaves the item at hand as it was.  The caches lose nothing,
and nothing is remembered of a system whose look-up failed.
-/

namespace Whereabouts

variable {ω α : Type}

/-!
## All or nothing
-/

/-- What becomes of the caches during some calls: no entry is lost or changed, and none is
gained for a system whose look-up failed. -/
structure Caches.Intact (before after : Caches) (calls : List Exchange) : Prop where
  published : before.published.KeptIn after.published
  owners : before.owners.KeptIn after.owners
  externalIds : before.externalIds.KeptIn after.externalIds
  refused : forall system failure, .externalId system (.error failure) ∈ calls ->
    after.published.get? system = before.published.get? system ∧
      after.owners.get? system = before.owners.get? system ∧
      after.externalIds.get? system = before.externalIds.get? system

theorem Caches.Intact.refl (caches : Caches) (calls : List Exchange) :
    caches.Intact caches calls :=
  ⟨.refl _, .refl _, .refl _, fun _ _ _ => ⟨rfl, rfl, rfl⟩⟩

/-- The location at hand is what it was, and the caches came through the calls of the
meantime intact. -/
def Bench.Spared (bench : Bench) (world : Recorded ω) (after : Bench) (final : Recorded ω) :
    Prop :=
  after.location = bench.location ∧
    exists calls, final.exchanges = calls ++ world.exchanges ∧
      bench.caches.Intact after.caches calls

/-- A step that spares the bench whenever it fails. -/
def Step.Atomic (y : Step (StateM (Recorded ω)) α) : Prop :=
  forall bench world failure after final,
    y.amid bench world = ((.error failure, after), final) -> bench.Spared world after final

namespace Surveyor

/-!
## Failed look-ups
-/

/-- A system that was not remembered is looked up without an answer, and nothing else
happens. -/
structure Refuses (surveyor : Surveyor (StateM ω)) (system : String) (bench : Bench) (world : ω)
    (failure : StorageError) (after : Bench) (final : ω) : Prop where
  unknown : bench.caches.externalIds.get? system = none
  call : (surveyor.storage.externalId system).run.run world = (.error failure, final)
  same : after = bench

section LookUps

variable {surveyor : Surveyor (StateM ω)} {system : String} {bench after : Bench}
  {world final : ω} {failure : StorageError}

theorem refuses_of_projectOf
    (hrun : (surveyor.projectOf system).amid bench world = ((.error failure, after), final)) :
    surveyor.Refuses system bench world failure after final := by
  unfold projectOf at hrun
  cases hproject : surveyor.engine.projectUuid? system with
  | none =>
      rw [hproject] at hrun
      cases hrun
  | some uuid =>
      rw [hproject] at hrun
      rcases Step.of_amid_remembered_error hrun with ⟨hunknown, hmake⟩
      rcases hcall : (surveyor.storage.externalId system).run.run world with ⟨answer, last⟩
      have hanswer : (Step.call (surveyor.storage.externalId system)).amid bench world =
          ((answer, bench), last) := View.run_bind_of_eq hcall
      rw [hanswer] at hmake
      cases hmake
      exact ⟨hunknown, hcall, rfl⟩

theorem refuses_of_publishedCopy
    (hrun : (surveyor.publishedCopy system).amid bench world =
      ((.error failure, after), final)) :
    surveyor.Refuses system bench world failure after final := by
  unfold publishedCopy at hrun
  cases hproject : surveyor.engine.projectUuid? system with
  | none =>
      rw [hproject] at hrun
      cases hrun
  | some uuid =>
      rw [hproject] at hrun
      rcases Step.of_amid_bind_error hrun with hlink | ⟨linked, middle, between, _, hindex⟩
      · exact refuses_of_projectOf hlink
      · cases linked with
        | none => cases hindex
        | some id =>
            rw [Step.amid_bind_of_ok (Step.amid_effect _ middle between)] at hindex
            cases hindex

theorem refuses_of_judge
    (hrun : surveyor.judge.amid bench world = ((.error failure, after), final)) :
    exists system, bench.location.currentSystem = some system ∧
      bench.caches.published.get? system = none ∧
      surveyor.Refuses system bench world failure after final := by
  unfold judge at hrun
  rw [Step.amid_location_bind] at hrun
  cases hsystem : bench.location.currentSystem with
  | none =>
      rw [hsystem] at hrun
      cases hrun
  | some system =>
      rw [hsystem] at hrun
      dsimp only at hrun
      split at hrun
      · cases hrun
      · rcases Step.of_amid_bind_error hrun with hrecall | ⟨copy, middle, between, _, hplace⟩
        · rcases Step.of_amid_remembered_error hrecall with ⟨hunknown, hmake⟩
          exact ⟨system, rfl, hunknown, refuses_of_publishedCopy hmake⟩
        · split at hplace <;> cases hplace

theorem refuses_of_assignProject
    (hrun : surveyor.assignProject.amid bench world = ((.error failure, after), final)) :
    exists system, surveyor.owningSystem? bench.location = some system ∧
      surveyor.Refuses system bench world failure after final := by
  unfold assignProject at hrun
  rw [Step.amid_location_bind] at hrun
  cases hnamed : surveyor.publishedProject? bench.location with
  | some id =>
      rw [hnamed] at hrun
      cases hrun
  | none =>
      rw [hnamed] at hrun
      dsimp only at hrun
      cases howner : surveyor.owningSystem? bench.location with
      | none =>
          rw [howner] at hrun
          cases hrun
      | some system =>
          rw [howner] at hrun
          rcases Step.of_amid_bind_error hrun with hlink | ⟨linked, middle, between, _, hplace⟩
          · exact ⟨system, rfl, refuses_of_projectOf hlink⟩
          · cases linked <;> cases hplace

end LookUps

/-!
## Failed searches
-/

section Searches

variable {surveyor : Surveyor (StateM ω)} {provenance : Provenance} {asset : Asset}
  {bench sourced after : Bench} {world between final : ω} {failure : StorageError} {found : Bool}

theorem SourceSearch.location_of_error
    (h : surveyor.SourceSearch provenance asset bench world (.error failure) after final) :
    after.location = bench.location := by
  cases h
  rfl

theorem SourceSearch.location_of_missing
    (h : surveyor.SourceSearch provenance asset bench world (.ok found) sourced between)
    (hmissing : sourced.location.originSystem = none) : sourced.location = bench.location := by
  cases h with
  | idle | unheard | gone => rfl
  | confirmed => cases hmissing

/-- No repair is made before one that fails: the system is searched only as long as no
source is found. -/
theorem location_of_repair_error
    (hrun : (surveyor.repair provenance asset).amid bench world =
      ((.error failure, after), final)) : after.location = bench.location := by
  rcases repair_error_cases hrun with hsource | ⟨_, sourced, between, hsource, hsystem⟩
  · exact hsource.location_of_error
  · cases hsystem with
    | failed hmissing =>
        exact hsource.location_of_missing (missingSystem?_eq_some_iff.mp hmissing).1

end Searches

/-!
## Steps of a pass
-/

section Steps

variable {surveyor : Surveyor (StateM (Recorded ω))} {provenance : Provenance} {asset : Asset}
  {system : String} {bench after : Bench} {world final : Recorded ω} {failure : StorageError}

theorem Moves.intact {caches last : Caches} {work : List RemoteWork}
    (hrecords : surveyor.storage.Records)
    (h : surveyor.Moves surveyor.build (caches, world) work (last, final))
    (hlookups : work.filterMap RemoteWork.lookup? = []) :
    exists calls, final.exchanges = calls ++ world.exchanges ∧ caches.Intact last calls := by
  rcases h.exchanges hrecords with ⟨calls, hcalls, hsame⟩
  refine ⟨_, hcalls, h.published.kept, h.owners.kept, h.externalIds.kept, ?_⟩
  intro system failure hcall
  have hlookup : (system, false) ∈ calls.filterMap Exchange.lookup? :=
    List.mem_filterMap.mpr ⟨_, List.mem_reverse.mp hcall, rfl⟩
  rw [hsame, hlookups] at hlookup
  cases hlookup

theorem Refuses.spared (hrecords : surveyor.storage.Records)
    (h : surveyor.Refuses system bench world failure after final) :
    bench.Spared world after final := by
  rw [h.same]
  exact ⟨rfl, [.externalId system (.error failure)], exchanges_of_externalId hrecords h.call,
    .refl _ _⟩

theorem atomic_repair (hrecords : surveyor.storage.Records) (provenance : Provenance)
    (asset : Asset) : (surveyor.repair provenance asset).Atomic := by
  intro bench world failure after final hrun
  refine ⟨location_of_repair_error hrun, ?_⟩
  rcases works_repair surveyor surveyor.build asset bench world _ after final hrun with
    ⟨work, hmoves, horder, _⟩
  apply hmoves.intact hrecords
  rw [List.filterMap_eq_nil_iff]
  intro piece hpiece
  have hplanned := horder.planned.subset (List.mem_map_of_mem hpiece)
  cases piece with
  | build target => rfl
  | call exchange =>
      cases exchange with
      | externalId system answer =>
          exact absurd (show RemoteWork.Kind.lookup ∈ [.owner, .stat, .list] from hplanned)
            (by decide)
      | _ => rfl

theorem atomic_judge (hrecords : surveyor.storage.Records) : surveyor.judge.Atomic := by
  intro bench world failure after final hrun
  rcases refuses_of_judge hrun with ⟨system, _, _, hrefuses⟩
  exact hrefuses.spared hrecords

theorem atomic_assignProject (hrecords : surveyor.storage.Records) :
    surveyor.assignProject.Atomic := by
  intro bench world failure after final hrun
  rcases refuses_of_assignProject hrun with ⟨system, _, hrefuses⟩
  exact hrefuses.spared hrecords

end Steps

end Surveyor

/-- The steps of a pass, whichever of them fails, leave the item at hand as it was before
the step and the caches intact. -/
theorem failed_steps_atomic {surveyor : Surveyor (StateM (Recorded ω))}
    (hrecords : surveyor.storage.Records) :
    (forall provenance asset, (surveyor.repair provenance asset).Atomic) ∧
      surveyor.judge.Atomic ∧ surveyor.assignProject.Atomic :=
  ⟨Surveyor.atomic_repair hrecords, Surveyor.atomic_judge hrecords,
    Surveyor.atomic_assignProject hrecords⟩

namespace Sample

/-- What surveys a remote storage that lists the file of the point cloud, but does not
describe it, and refuses to name a project. -/
def refusingSurveyor : Surveyor (StateM (Recorded Unit)) where
  storage := (Storage.answering
    { cloudShelf with
      stat := fun _ _ => .error (.io "unreachable"),
      externalId := fun system => .error (.projectLookup system "refused") }).recorded
  engine := .standard
  depth := 4

def unlearned : Bench where
  location := cloud.location
  caches := .empty

end Sample

/-- Each of the steps fails for the point cloud.  The repair has indexed the owning system
by then, and the index stays. -/
theorem failed_steps_atomic_cloud :
    (exists after final,
      (Sample.refusingSurveyor.repair Sample.clouded Sample.cloud).amid Sample.unlearned
        { exchanges := [], inner := () } = ((.error (.io "unreachable"), after), final) ∧
      after.location = Sample.cloud.location ∧
      (after.caches.owners.get? "project-a").isSome = true) ∧
    (exists after final,
      Sample.refusingSurveyor.judge.amid Sample.unlearned { exchanges := [], inner := () } =
        ((.error (.projectLookup "project-a" "refused"), after), final) ∧
      after.location = Sample.cloud.location ∧
      after.caches.externalIds.get? "project-a" = none ∧
      after.caches.published.get? "project-a" = none) ∧
    exists after final,
      Sample.refusingSurveyor.assignProject.amid Sample.unlearned { exchanges := [], inner := () } =
        ((.error (.projectLookup "project-a" "refused"), after), final) ∧
      after.location = Sample.cloud.location ∧
      after.caches.externalIds.get? "project-a" = none := by
  have hrecords : Sample.refusingSurveyor.storage.Records := Storage.recorded_records _
  rcases failed_steps_atomic hrecords with ⟨hrepair, hjudge, hassign⟩
  have hrepaired : ((Sample.refusingSurveyor.repair Sample.clouded Sample.cloud).amid
    Sample.unlearned
      { exchanges := [], inner := () }).1.1 = .error (.io "unreachable") := by
    decide +kernel
  have hjudged : (Sample.refusingSurveyor.judge.amid Sample.unlearned
      { exchanges := [], inner := () }).1.1 =
        .error (.projectLookup "project-a" "refused") := by
    decide +kernel
  have hassigned : (Sample.refusingSurveyor.assignProject.amid Sample.unlearned
      { exchanges := [], inner := () }).1.1 =
        .error (.projectLookup "project-a" "refused") := by
    decide +kernel
  refine ⟨?_, ?_, ?_⟩
  · have hrun := Prod.ext (Prod.ext hrepaired rfl) rfl
    exact ⟨_, _, hrun, (hrepair _ _ _ _ _ _ _ hrun).1, by decide +kernel⟩
  · have hrun := Prod.ext (Prod.ext hjudged rfl) rfl
    exact ⟨_, _, hrun, (hjudge _ _ _ _ _ hrun).1, by decide +kernel, by decide +kernel⟩
  · have hrun := Prod.ext (Prod.ext hassigned rfl) rfl
    exact ⟨_, _, hrun, (hassign _ _ _ _ _ hrun).1, by decide +kernel⟩

end Whereabouts
