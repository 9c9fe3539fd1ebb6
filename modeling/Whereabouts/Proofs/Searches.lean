import Whereabouts.Proofs.PassPlan

/-!
# Searches of a repair

Everything that the parts of a repair can do, for any remote storage and any caches: one
rule for each way in which a search ends.  Later modules take a repair apart by these rules
and do not open its definition again.
-/

namespace Whereabouts

variable {ω α : Type}

/-!
## Memories that are kept
-/

def OrderedMap.KeptIn (before after : OrderedMap String α) : Prop :=
  forall key value, before.get? key = some value -> after.get? key = some value

theorem OrderedMap.KeptIn.refl (map : OrderedMap String α) : map.KeptIn map :=
  fun _ _ h => h

namespace Surveyor

/-- The path of origin to look for on the owning system, when its own system is not
recorded. -/
def missingSystem? (provenance : Provenance) (loc : Location) : Option (String × String) :=
  match loc.originSystem, loc.originPath, provenance.project.owningSystem? with
  | none, some path, some owner => some (path, owner)
  | _, _, _ => none

theorem missingSystem?_eq_some_iff {provenance : Provenance} {loc : Location}
    {path owner : String} :
    missingSystem? provenance loc = some (path, owner) <->
      loc.originSystem = none ∧ loc.originPath = some path ∧
        provenance.project.owningSystem? = some owner := by
  unfold missingSystem?
  cases loc.originSystem <;> cases loc.originPath <;>
    cases provenance.project.owningSystem? <;> simp

/-!
## How a search may end
-/

section Endings

variable (surveyor : Surveyor (StateM ω)) (provenance : Provenance)

/-- The index of an owning system is at hand: it is known, or it is made and known from
then on. -/
inductive Consults (owner : String) (caches : Caches) (world : ω) :
    FileIndex -> Caches -> ω -> Prop
  | known {index : FileIndex} (h : caches.owners.get? owner = some index) :
      Consults owner caches world index caches world
  | made {index : FileIndex} {after : ω} (hunknown : caches.owners.get? owner = none)
      (hindex : (surveyor.index owner "/").run world = (index, after)) :
      Consults owner caches world index
        { caches with owners := caches.owners.insert owner index } after

/-- An index leads to a file that may be the source of an asset at a location. -/
inductive Points (asset : Asset) (bench : Bench) (world : ω) :
    (owner path : String) -> Caches -> ω -> Prop
  | intro {name owner found : String} {index : FileIndex} {caches : Caches} {after : ω}
      (hmissing : missingSource? provenance asset bench.location = some (name, owner))
      (hindex : Consults surveyor owner bench.caches world index caches after)
      (hfound : index.resolve? name = some found) :
      Points asset bench world owner (RemotePath.absolute found) caches after

/-- How the search for the source of a point cloud ends. -/
inductive SourceSearch (asset : Asset) (bench : Bench) (world : ω) :
    Except StorageError Bool -> Bench -> ω -> Prop
  /-- Nothing is missing, or nothing tells what to look for and where. -/
  | idle (hidle : missingSource? provenance asset bench.location = none) :
      SourceSearch asset bench world (.ok false) bench world
  /-- No file of the owning system has the name. -/
  | unheard {name owner : String} {index : FileIndex} {caches : Caches} {after : ω}
      (hmissing : missingSource? provenance asset bench.location = some (name, owner))
      (hindex : Consults surveyor owner bench.caches world index caches after)
      (hnone : index.resolve? name = none) :
      SourceSearch asset bench world (.ok false) { bench with caches } after
  /-- The file is not there any more. -/
  | gone {owner path : String} {caches : Caches} {between after : ω} {place file : String}
      (hpoints : Points surveyor provenance asset bench world owner path caches between)
      (hstat : (surveyor.storage.stat owner path).run.run between =
        (.error (.notListable place file), after)) :
      SourceSearch asset bench world (.ok false) { bench with caches } after
  | confirmed {owner path : String} {caches : Caches} {between after : ω} {entry : Entry}
      (hpoints : Points surveyor provenance asset bench world owner path caches between)
      (hstat : (surveyor.storage.stat owner path).run.run between = (.ok entry, after)) :
      SourceSearch asset bench world (.ok true)
        { location := bench.location.withOrigin owner path, caches } after
  | failed {owner path : String} {caches : Caches} {between after : ω} {failure : StorageError}
      (hpoints : Points surveyor provenance asset bench world owner path caches between)
      (hstat : (surveyor.storage.stat owner path).run.run between = (.error failure, after))
      (hfailure : forall place file, failure ≠ .notListable place file) :
      SourceSearch asset bench world (.error failure) { bench with caches } after

/-- How the search for the system of a path of origin ends. -/
inductive SystemSearch (bench : Bench) (world : ω) :
    Except StorageError Bool -> Bench -> ω -> Prop
  | idle (hidle : missingSystem? provenance bench.location = none) :
      SystemSearch bench world (.ok false) bench world
  /-- Nothing is listed under the path. -/
  | empty {path owner : String} {after : ω}
      (hmissing : missingSystem? provenance bench.location = some (path, owner))
      (hlist : (surveyor.storage.list owner path).run.run world = (.ok [], after)) :
      SystemSearch bench world (.ok false) bench after
  | gone {path owner : String} {after : ω} {place file : String}
      (hmissing : missingSystem? provenance bench.location = some (path, owner))
      (hlist : (surveyor.storage.list owner path).run.run world =
        (.error (.notListable place file), after)) :
      SystemSearch bench world (.ok false) bench after
  | confirmed {path owner : String} {after : ω} {entry : Entry} {rest : List Entry}
      (hmissing : missingSystem? provenance bench.location = some (path, owner))
      (hlist : (surveyor.storage.list owner path).run.run world =
        (.ok (entry :: rest), after)) :
      SystemSearch bench world (.ok true)
        { bench with location := bench.location.withOrigin owner path } after
  | failed {path owner : String} {after : ω} {failure : StorageError}
      (hmissing : missingSystem? provenance bench.location = some (path, owner))
      (hlist : (surveyor.storage.list owner path).run.run world = (.error failure, after))
      (hfailure : forall place file, failure ≠ .notListable place file) :
      SystemSearch bench world (.error failure) bench after

end Endings

/-!
## Every search ends in one of these ways
-/

section Cases

variable {surveyor : Surveyor (StateM ω)} {provenance : Provenance} {asset : Asset}
  {owner : String} {index : FileIndex} {caches : Caches} {bench after : Bench} {world final : ω}

theorem Consults.get? {last : Caches} (h : surveyor.Consults owner caches world index last final) :
    last.owners.get? owner = some index := by
  cases h with
  | known h => exact h
  | made => exact OrderedMap.get?_insert_self ..

theorem Consults.of_known {known : FileIndex} {last : Caches}
    (h : surveyor.Consults owner caches world index last final)
    (hknown : caches.owners.get? owner = some known) : index = known ∧ last = caches := by
  cases h with
  | known h =>
      rw [h] at hknown
      cases hknown
      exact ⟨rfl, rfl⟩
  | made hunknown =>
      rw [hunknown] at hknown
      cases hknown

theorem consults_of_recallOwner {result : Except StorageError FileIndex}
    (hrun : (Step.recallOwner owner (.effect (surveyor.build (.owner owner)))).amid bench world =
      ((result, after), final)) :
    exists index caches, result = .ok index ∧ after = { bench with caches } ∧
      surveyor.Consults owner bench.caches world index caches final := by
  unfold Step.recallOwner at hrun
  cases hknown : bench.caches.owners.get? owner with
  | some index =>
      rw [Step.amid_remembered_of_some hknown] at hrun
      cases hrun
      exact ⟨index, bench.caches, rfl, rfl, .known hknown⟩
  | none =>
      rw [Step.amid_remembered_of_ok hknown (Step.amid_effect _ _ _)] at hrun
      cases hrun
      exact ⟨_, _, rfl, rfl, .made hknown rfl⟩

theorem sourceSearch {result : Except StorageError Bool}
    (hrun : (surveyor.recoverSource provenance asset).amid bench world =
      ((result, after), final)) :
    surveyor.SourceSearch provenance asset bench world result after final := by
  unfold recoverSource at hrun
  rw [Step.amid_location_bind] at hrun
  cases hmissing : missingSource? provenance asset bench.location with
  | none =>
      rw [hmissing] at hrun
      cases hrun
      exact .idle hmissing
  | some source =>
      rcases source with ⟨name, owner⟩
      rw [hmissing] at hrun
      dsimp only at hrun
      rcases hrecall : (Step.recallOwner owner (.effect (surveyor.build (.owner owner)))).amid bench
        world with ⟨⟨recalled, middle⟩, between⟩
      rcases consults_of_recallOwner hrecall with ⟨index, caches, rfl, rfl, hindex⟩
      rw [Step.amid_bind_of_ok hrecall] at hrun
      cases hfound : index.resolve? name with
      | none =>
          rw [hfound] at hrun
          cases hrun
          exact .unheard hmissing hindex hfound
      | some found =>
          have hpoints : surveyor.Points provenance asset bench world owner
              (RemotePath.absolute found) caches between := .intro hmissing hindex hfound
          rw [hfound] at hrun
          dsimp only [confirmSource] at hrun
          rw [Step.amid_attempt_bind] at hrun
          rcases hstat : (surveyor.storage.stat owner (RemotePath.absolute found)).run.run between
            with ⟨answer, last⟩
          rw [hstat] at hrun
          cases answer with
          | ok entry =>
              cases hrun
              exact .confirmed hpoints hstat
          | error failure =>
              cases failure with
              | notListable place file =>
                  cases hrun
                  exact .gone hpoints hstat
              | _ =>
                  cases hrun
                  exact .failed hpoints hstat fun _ _ h => nomatch h

theorem systemSearch {result : Except StorageError Bool}
    (hrun : (surveyor.recoverSystem provenance).amid bench world = ((result, after), final)) :
    surveyor.SystemSearch provenance bench world result after final := by
  unfold recoverSystem at hrun
  rw [Step.amid_location_bind] at hrun
  split at hrun
  · rename_i path owner hsystem hpath howner
    have hmissing := missingSystem?_eq_some_iff.mpr ⟨hsystem, hpath, howner⟩
    rw [Step.amid_attempt_bind] at hrun
    rcases hlist : (surveyor.storage.list owner path).run.run world with ⟨answer, last⟩
    rw [hlist] at hrun
    cases answer with
    | ok listing =>
        cases listing with
        | nil =>
            cases hrun
            exact .empty hmissing hlist
        | cons entry rest =>
            cases hrun
            exact .confirmed hmissing hlist
    | error failure =>
        cases failure with
        | notListable place file =>
            cases hrun
            exact .gone hmissing hlist
        | _ =>
            cases hrun
            exact .failed hmissing hlist fun _ _ h => nomatch h
  · rename_i hidle
    cases hrun
    apply SystemSearch.idle
    rw [Option.eq_none_iff_forall_ne_some]
    intro source hsource
    rcases missingSystem?_eq_some_iff.mp hsource with ⟨hsystem, hpath, howner⟩
    exact hidle _ _ hsystem hpath howner

theorem amid_fillCurrent (bench : Bench) (world : ω) :
    (fillCurrent : Step (StateM ω) Bool).amid bench world =
      ((.ok (completion? bench.location).isSome,
        { bench with location := filled bench.location }), world) := by
  unfold fillCurrent filled
  rw [Step.amid_location_bind, completedCurrent?_eq]
  cases completion? bench.location <;> rfl

/-!
## Repairs
-/

theorem amid_fillCurrent_bind (f : Bool -> Repairs) (bench : Bench) (world : ω) :
    (do return f (<- fillCurrent) : Step (StateM ω) Repairs).amid bench world =
      ((.ok (f (completion? bench.location).isSome),
        { bench with location := filled bench.location }), world) := by
  rw [Step.amid_bind_of_ok (amid_fillCurrent bench world)]
  rfl

/-- A repair that ends well has searched twice, and then completed the current place. -/
theorem repair_ok_cases {repairs : Repairs}
    (hrun : (surveyor.repair provenance asset).amid bench world =
      ((.ok repairs, after), final)) :
    exists sourced between owned,
      surveyor.SourceSearch provenance asset bench world (.ok repairs.originPath) sourced
        between ∧
      surveyor.SystemSearch provenance sourced between (.ok repairs.originSystem) owned final ∧
      repairs.current = (completion? owned.location).isSome ∧
      after = { owned with location := filled owned.location } := by
  rcases Step.of_amid_bind_ok hrun with ⟨originPath, sourced, between, hsource, hrest⟩
  rcases Step.of_amid_bind_ok hrest with ⟨originSystem, owned, last, hsystem, hfill⟩
  rw [amid_fillCurrent_bind fun current => ⟨originPath, originSystem, current⟩] at hfill
  cases hfill
  exact ⟨sourced, between, owned, sourceSearch hsource, systemSearch hsystem, rfl, rfl⟩

/-- A repair that fails has failed in one of its searches. -/
theorem repair_error_cases {failure : StorageError}
    (hrun : (surveyor.repair provenance asset).amid bench world =
      ((.error failure, after), final)) :
    surveyor.SourceSearch provenance asset bench world (.error failure) after final ∨
      exists originPath sourced between,
        surveyor.SourceSearch provenance asset bench world (.ok originPath) sourced between ∧
        surveyor.SystemSearch provenance sourced between (.error failure) after final := by
  rcases Step.of_amid_bind_error hrun with
    hsource | ⟨originPath, sourced, between, hsource, hrest⟩
  · exact Or.inl (sourceSearch hsource)
  · rcases Step.of_amid_bind_error hrest with
      hsystem | ⟨originSystem, owned, last, hsystem, hfill⟩
    · exact Or.inr ⟨originPath, sourced, between, sourceSearch hsource, systemSearch hsystem⟩
    · rw [amid_fillCurrent_bind fun current => ⟨originPath, originSystem, current⟩] at hfill
      cases hfill

end Cases

end Surveyor
end Whereabouts
