import Whereabouts.Proofs.Caches

/-!
# Settling

What a pass makes of a location when remote storage has fixed answers, said without
caches.  It does not look at the time of the latest check, and where the system for
published files is a public one, a location that it made is left as it is.
-/

namespace Whereabouts

/-!
## Parts of a pass
-/

namespace Location

def timed (loc : Location) (time : Option Instant) : Location :=
  { loc with checkedAt := time }

def withOrigin? (loc : Location) : Option (String × String) -> Location
  | none => loc
  | some (system, path) => loc.withOrigin system path

def withExternalId? (loc : Location) : Option String -> Location
  | none => loc
  | some id => loc.withExternalId id

end Location

namespace Surveyor

variable (surveyor : Surveyor Id) (provenance : Provenance)

/-- The place of origin that remote storage confirms. -/
def confirmed (owner path : String) :
    Except StorageError (Option (String × String)) :=
  match (surveyor.storage.stat owner path).run.run with
  | .ok _ => .ok (some (owner, path))
  | .error (.notListable _ _) => .ok none
  | .error failure => .error failure

/-- The source of a point cloud, when it is missing and can be found. -/
def foundSource (asset : Asset) (loc : Location) :
    Except StorageError (Option (String × String)) :=
  match missingSource? provenance asset loc with
  | none => .ok none
  | some (name, owner) =>
      match (surveyor.index owner "/").run.resolve? name with
      | none => .ok none
      | some found => surveyor.confirmed owner (RemotePath.absolute found)

/-- The path of origin on the owning system, when its system is missing and something
is found there. -/
def foundSystem (loc : Location) : Except StorageError (Option (String × String)) :=
  match loc.originSystem, loc.originPath, provenance.project.owningSystem? with
  | none, some path, some owner =>
      match (surveyor.storage.list owner path).run.run with
      | .ok [] => .ok none
      | .ok _ => .ok (some (owner, path))
      | .error (.notListable _ _) => .ok none
      | .error failure => .error failure
  | _, _, _ => .ok none

def judged (loc : Location) : Except StorageError (Verdict × Location) :=
  match loc.currentSystem with
  | none => .ok (.unknown, loc)
  | some system =>
      if surveyor.engine.isPublicSystem system then
        .ok (.alreadyPublic, loc.withPublic true)
      else
        match surveyor.copied system with
        | .error failure => .error failure
        | .ok index =>
            match index.bind fun index => loc.currentPath.bind index.resolve? with
            | none => .ok (.notPublic, loc.withPublic false)
            | some path =>
                let target := surveyor.engine.publishedSystem
                let place := RemotePath.absolute path
                .ok (.relocated target place, (loc.withCurrent target place).withPublic true)

def foundProject (loc : Location) : Except StorageError (Option String) :=
  match surveyor.publishedProject? loc with
  | some id => .ok (some id)
  | none =>
      match surveyor.owningSystem? loc with
      | none => .ok none
      | some system => surveyor.linked system

/-- The current place that the parts of a location are completed to. -/
def completion? (loc : Location) : Option (String × String) :=
  match loc.currentSystem, loc.currentPath with
  | some _, some _ => none
  | none, none =>
      loc.originSystem.bind fun system => loc.originPath.map fun path => (system, path)
  | none, some path =>
      if some path = loc.originPath then loc.originSystem.map fun system => (system, path)
      else none
  | some system, none =>
      if some system = loc.originSystem then loc.originPath.map fun path => (system, path)
      else none

def filled (loc : Location) : Location :=
  (completedCurrent? loc).getD loc

def placed (loc : Location) : Except StorageError Location :=
  (surveyor.foundSystem provenance loc).map fun place => filled (loc.withOrigin? place)

def repaired (asset : Asset) (loc : Location) : Except StorageError Location :=
  (surveyor.foundSource provenance asset loc).bind fun place =>
    surveyor.placed provenance (loc.withOrigin? place)

def reconciled (loc : Location) : Except StorageError Location :=
  (surveyor.judged loc).bind fun found =>
    (surveyor.foundProject found.2).map found.2.withExternalId?

/-- The location of an item after a pass over it. -/
def settled (item : Tracked) (loc : Location) : Except StorageError Location :=
  match item with
  | .asset asset => (surveyor.repaired provenance asset loc).bind surveyor.reconciled
  | .tileServer _ => surveyor.reconciled loc

end Surveyor

/-!
## Steps and where they move a location
-/

variable {α β : Type} {surveyor : Surveyor Id}

/-- The location that a step ends with, where nothing is cached. -/
def Step.move (y : Step Id α) (loc : Location) : Except StorageError Location :=
  match y.alone loc with
  | (.ok _, next) => .ok next
  | (.error failure, _) => .error failure

namespace Step

theorem move_of_ok {y : Step Id α} {loc next : Location} {a : α}
    (h : y.alone loc = (.ok a, next)) : y.move loc = .ok next := by
  unfold move
  rw [h]

theorem move_of_error {y : Step Id α} {loc next : Location} {failure : StorageError}
    (h : y.alone loc = (.error failure, next)) : y.move loc = .error failure := by
  unfold move
  rw [h]

theorem move_bind_of_ok {x : Step Id α} {k : α -> Step Id β} {loc next : Location} {a : α}
    (hx : Transparent surveyor x) (hk : Transparent surveyor (k a))
    (h : x.alone loc = (.ok a, next)) : (x >>= k).move loc = (k a).move next := by
  unfold move
  rw [alone_bind_of_ok hx hk h]

theorem move_bind_of_error {x : Step Id α} {k : α -> Step Id β} {loc next : Location}
    {failure : StorageError} (h : x.alone loc = (.error failure, next)) :
    (x >>= k).move loc = .error failure :=
  move_of_error (alone_bind_of_error h)

theorem move_bind {x : Step Id α} {k : α -> Step Id β}
    {g : Location -> Except StorageError Location}
    (hx : Transparent surveyor x) (hk : forall a, Transparent surveyor (k a))
    (hg : forall a next, (k a).move next = g next) (loc : Location) :
    (x >>= k).move loc = (x.move loc).bind g := by
  rcases halone : x.alone loc with ⟨result, next⟩
  cases result with
  | error failure =>
      rw [move_bind_of_error halone, move_of_error halone]
      rfl
  | ok a =>
      rw [move_bind_of_ok hx (hk a) halone, hg a next, move_of_ok halone]
      rfl

/-!
Steps that do not look at the caches.
-/

theorem move_location_bind (k : Location -> Step Id α) (loc : Location) :
    (Step.location >>= k).move loc = (k loc).move loc := rfl

theorem move_attempt_bind (remote : Remote Id α) (k : Except StorageError α -> Step Id β)
    (loc : Location) : (Step.attempt remote >>= k).move loc = (k remote.run.run).move loc := rfl

end Step

/-!
## Repairs
-/

theorem move_confirmSource (surveyor : Surveyor Id) (loc : Location) (owner found : String) :
    (surveyor.confirmSource loc owner found).move loc =
      (surveyor.confirmed owner (RemotePath.absolute found)).map loc.withOrigin? := by
  unfold Surveyor.confirmSource Surveyor.confirmed
  rw [Step.move_attempt_bind]
  cases (surveyor.storage.stat owner (RemotePath.absolute found)).run.run with
  | ok entry => rfl
  | error failure => cases failure <;> rfl

theorem move_recoverSource (surveyor : Surveyor Id) (provenance : Provenance) (asset : Asset)
    (loc : Location) :
    (surveyor.recoverSource provenance asset).move loc =
      (surveyor.foundSource provenance asset loc).map loc.withOrigin? := by
  unfold Surveyor.recoverSource Surveyor.foundSource
  rw [Step.move_location_bind]
  cases Surveyor.missingSource? provenance asset loc with
  | none => rfl
  | some source =>
      rcases source with ⟨name, owner⟩
      rcases recallOwner_spec surveyor owner with ⟨hrecall, halone⟩
      refine (Step.move_bind_of_ok hrecall ?_ (halone loc)).trans ?_
      · cases (surveyor.index owner "/").run.resolve? name with
        | none => exact transparent_pure false
        | some found => exact transparent_confirmSource surveyor loc owner found
      · dsimp only
        cases (surveyor.index owner "/").run.resolve? name with
        | none => rfl
        | some found => exact move_confirmSource surveyor loc owner found

theorem move_recoverSystem (surveyor : Surveyor Id) (provenance : Provenance) (loc : Location) :
    (surveyor.recoverSystem provenance).move loc =
      (surveyor.foundSystem provenance loc).map loc.withOrigin? := by
  unfold Surveyor.recoverSystem Surveyor.foundSystem
  rw [Step.move_location_bind]
  cases loc.originSystem with
  | some system => rfl
  | none =>
      cases loc.originPath with
      | none => rfl
      | some path =>
          cases provenance.project.owningSystem? with
          | none => rfl
          | some owner =>
              dsimp only
              rw [Step.move_attempt_bind]
              cases (surveyor.storage.list owner path).run.run with
              | ok listing => cases listing <;> rfl
              | error failure => cases failure <;> rfl

theorem move_fillCurrent (loc : Location) :
    (Surveyor.fillCurrent : Step Id Bool).move loc =
      .ok (Surveyor.filled loc) := by
  unfold Surveyor.fillCurrent Surveyor.filled
  rw [Step.move_location_bind]
  cases Surveyor.completedCurrent? loc <;> rfl

theorem completedCurrent?_eq (loc : Location) :
    Surveyor.completedCurrent? loc =
      (Surveyor.completion? loc).map fun place => loc.withCurrent place.1 place.2 := by
  rcases loc with ⟨originSystem, originPath, currentSystem, currentPath, id, verdict, checked⟩
  cases currentSystem <;> cases currentPath
  case some.some => rfl
  case none.none => cases originSystem <;> cases originPath <;> rfl
  case none.some path =>
      by_cases hpath : some path = originPath
      · cases originSystem <;>
          simp [Surveyor.completedCurrent?, Surveyor.completion?, Location.withCurrent, hpath]
      · simp [Surveyor.completedCurrent?, Surveyor.completion?, hpath]
  case some.none system =>
      by_cases hsystem : some system = originSystem
      · cases originPath <;>
          simp [Surveyor.completedCurrent?, Surveyor.completion?, Location.withCurrent, hsystem]
      · simp [Surveyor.completedCurrent?, Surveyor.completion?, hsystem]

theorem of_completion?_eq_some {loc : Location} {place : String × String}
    (h : Surveyor.completion? loc = some place) :
    loc.originSystem = some place.1 ∧ loc.originPath = some place.2 := by
  unfold Surveyor.completion? at h
  cases hsystem : loc.currentSystem <;> cases hpath : loc.currentPath <;>
    rw [hsystem, hpath] at h
  case none.none =>
      rcases Option.bind_eq_some_iff.mp h with ⟨system, horigin, h⟩
      rcases Option.map_eq_some_iff.mp h with ⟨path, hfile, rfl⟩
      exact ⟨horigin, hfile⟩
  case none.some path =>
      dsimp only at h
      split at h
      · rename_i hfile
        rcases Option.map_eq_some_iff.mp h with ⟨system, horigin, rfl⟩
        exact ⟨horigin, hfile.symm⟩
      · cases h
  case some.none system =>
      dsimp only at h
      split at h
      · rename_i horigin
        rcases Option.map_eq_some_iff.mp h with ⟨path, hfile, rfl⟩
        exact ⟨horigin.symm, hfile⟩
      · cases h
  case some.some => cases h

theorem filled_eq (loc : Location) :
    Surveyor.filled loc =
      match Surveyor.completion? loc with
      | none => loc
      | some place => loc.withCurrent place.1 place.2 := by
  unfold Surveyor.filled
  rw [completedCurrent?_eq]
  cases Surveyor.completion? loc <;> rfl

/-!
## Verdicts and attributions
-/

theorem alone_judge (surveyor : Surveyor Id) (loc : Location) :
    surveyor.judge.alone loc =
      match surveyor.judged loc with
      | .ok (verdict, next) => (.ok verdict, next)
      | .error failure => (.error failure, loc) := by
  have hstart : forall k : Location -> Step Id Verdict,
      (Step.location >>= k).alone loc = (k loc).alone loc := fun _ => rfl
  unfold Surveyor.judge Surveyor.judged
  rw [hstart]
  cases hcurrent : loc.currentSystem with
  | none => rfl
  | some system =>
      cases hpublic : surveyor.engine.isPublicSystem system with
      | true =>
          simp only [hpublic, if_true]
          rfl
      | false =>
          simp only [hpublic, Bool.false_eq_true, if_false]
          rcases recallPublished_spec surveyor system with ⟨hrecall, halone⟩
          have hcopied := halone loc
          cases hcopy : surveyor.copied system with
          | error failure =>
              rw [hcopy] at hcopied
              exact Step.alone_bind_of_error hcopied
          | ok index =>
              rw [hcopy] at hcopied
              refine (Step.alone_bind_of_ok hrecall ?_ hcopied).trans ?_
              · cases index.bind fun index => loc.currentPath.bind index.resolve? with
                | none =>
                    exact transparent_bind (transparent_setLocation _) fun _ => transparent_pure _
                | some path =>
                    exact transparent_bind (transparent_setLocation _) fun _ => transparent_pure _
              · dsimp only
                cases index.bind fun index => loc.currentPath.bind index.resolve? with
                | none => rfl
                | some path => rfl

theorem move_judge (surveyor : Surveyor Id) (loc : Location) :
    surveyor.judge.move loc = (surveyor.judged loc).map Prod.snd := by
  unfold Step.move
  rw [alone_judge]
  cases surveyor.judged loc <;> rfl

theorem move_assignProject (surveyor : Surveyor Id) (loc : Location) :
    surveyor.assignProject.move loc =
      (surveyor.foundProject loc).map loc.withExternalId? := by
  unfold Surveyor.assignProject Surveyor.foundProject
  rw [Step.move_location_bind]
  cases surveyor.publishedProject? loc with
  | some id => rfl
  | none =>
      cases surveyor.owningSystem? loc with
      | none => rfl
      | some system =>
          rcases projectOf_spec surveyor system with ⟨hproject, halone⟩
          have hlinked := halone loc
          dsimp only
          cases hlink : surveyor.linked system with
          | error failure =>
              rw [hlink] at hlinked
              exact Step.move_bind_of_error hlinked
          | ok project =>
              rw [hlink] at hlinked
              cases project with
              | none =>
                  refine (Step.move_bind_of_ok hproject ?_ hlinked).trans rfl
                  exact transparent_pure ()
              | some id =>
                  refine (Step.move_bind_of_ok hproject ?_ hlinked).trans rfl
                  exact transparent_setLocation _

/-!
## Passes
-/

theorem move_reconcile (surveyor : Surveyor Id) (loc : Location) :
    surveyor.reconcile.move loc = surveyor.reconciled loc := by
  have hassign : forall verdict next,
      (do surveyor.assignProject; return verdict : Step Id Verdict).move next =
        (surveyor.foundProject next).map next.withExternalId? := by
    intro verdict next
    refine (Step.move_bind (transparent_assignProject surveyor)
      (fun _ => transparent_pure verdict) (g := .ok) (fun _ _ => rfl) next).trans ?_
    rw [move_assignProject]
    cases surveyor.foundProject next <;> rfl
  refine (Step.move_bind (transparent_judge surveyor) ?_ hassign loc).trans ?_
  · intro verdict
    exact transparent_bind (transparent_assignProject surveyor) fun _ => transparent_pure verdict
  · rw [move_judge]
    unfold Surveyor.reconciled
    cases surveyor.judged loc <;> rfl

theorem move_repair (surveyor : Surveyor Id) (provenance : Provenance) (asset : Asset)
    (loc : Location) :
    (surveyor.repair provenance asset).move loc = surveyor.repaired provenance asset loc := by
  have htail : forall repairs : Bool -> Repairs,
      Transparent surveyor (do return repairs (<- Surveyor.fillCurrent)) :=
    fun _ => transparent_bind transparent_fillCurrent fun _ => transparent_pure _
  have hfilled : forall (repairs : Bool -> Repairs) next,
      Step.move (do return repairs (<- Surveyor.fillCurrent)) next =
        .ok (Surveyor.filled next) := by
    intro repairs next
    refine (Step.move_bind (@transparent_fillCurrent surveyor) (fun _ => transparent_pure _)
      (g := .ok) (fun _ _ => rfl) next).trans ?_
    rw [move_fillCurrent]
    rfl
  have hplaced : forall (repairs : Bool -> Bool -> Repairs) next,
      Step.move (do
        let system <- surveyor.recoverSystem provenance
        return repairs system (<- Surveyor.fillCurrent)) next =
          surveyor.placed provenance next := by
    intro repairs next
    refine (Step.move_bind (transparent_recoverSystem surveyor provenance)
      (fun system => htail (repairs system)) (fun system => hfilled (repairs system))
      next).trans ?_
    rw [move_recoverSystem]
    unfold Surveyor.placed
    cases surveyor.foundSystem provenance next <;> rfl
  refine (Step.move_bind (transparent_recoverSource surveyor provenance asset) ?_
    (fun source => hplaced fun system current => ⟨source, system, current⟩) loc).trans ?_
  · exact fun source => transparent_bind (transparent_recoverSystem surveyor provenance)
      fun system => htail fun current => ⟨source, system, current⟩
  · rw [move_recoverSource]
    unfold Surveyor.repaired
    cases surveyor.foundSource provenance asset loc <;> rfl

/-- A pass moves a location to where it settles. -/
theorem move_pass (surveyor : Surveyor Id) (provenance : Provenance) (item : Tracked)
    (loc : Location) :
    (surveyor.pass provenance item).move loc = surveyor.settled provenance item loc := by
  cases item with
  | asset asset =>
      refine (Step.move_bind (transparent_repair surveyor provenance asset)
        (fun _ => transparent_reconcile surveyor) (fun _ => move_reconcile surveyor) loc).trans ?_
      rw [move_repair]
      rfl
  | tileServer server => exact move_reconcile surveyor loc

/-!
## The time of the latest check

No part of a pass looks at the time of the latest check, and none sets it.
-/

namespace Location

theorem timed_timed (loc : Location) (first second : Option Instant) :
    (loc.timed first).timed second = loc.timed second := rfl

theorem withOrigin?_timed (loc : Location) (place : Option (String × String))
    (time : Option Instant) :
    (loc.timed time).withOrigin? place = (loc.withOrigin? place).timed time := by
  cases place <;> rfl

theorem withExternalId?_timed (loc : Location) (id : Option String) (time : Option Instant) :
    (loc.timed time).withExternalId? id = (loc.withExternalId? id).timed time := by
  cases id <;> rfl

end Location

theorem filled_timed (loc : Location) (time : Option Instant) :
    Surveyor.filled (loc.timed time) = (Surveyor.filled loc).timed time := by
  have hcompletion : Surveyor.completion? (loc.timed time) = Surveyor.completion? loc := rfl
  rw [filled_eq, filled_eq, hcompletion]
  cases Surveyor.completion? loc <;> rfl

/-- A verdict commutes with every change that it neither reads nor overwrites. -/
theorem judged_map (surveyor : Surveyor Id) (change : Location -> Location)
    (hsystem : forall loc, (change loc).currentSystem = loc.currentSystem)
    (hpath : forall loc, (change loc).currentPath = loc.currentPath)
    (hpublic : forall loc verdict,
      (change loc).withPublic verdict = change (loc.withPublic verdict))
    (hcurrent : forall loc system path,
      (change loc).withCurrent system path = change (loc.withCurrent system path))
    (loc : Location) :
    surveyor.judged (change loc) =
      (surveyor.judged loc).map fun found => (found.1, change found.2) := by
  unfold Surveyor.judged
  rw [hsystem, hpath, hpublic, hpublic]
  cases loc.currentSystem with
  | none => rfl
  | some system =>
      dsimp only
      split
      · rfl
      · cases surveyor.copied system with
        | error failure => rfl
        | ok index =>
            dsimp only
            cases index.bind fun index => loc.currentPath.bind index.resolve? with
            | none => rfl
            | some path =>
                dsimp only
                rw [hcurrent, hpublic]
                rfl

theorem reconciled_timed (surveyor : Surveyor Id) (loc : Location) (time : Option Instant) :
    surveyor.reconciled (loc.timed time) =
      (surveyor.reconciled loc).map fun next => next.timed time := by
  unfold Surveyor.reconciled
  rw [judged_map surveyor (fun loc => loc.timed time) (fun _ => rfl) (fun _ => rfl)
    (fun _ _ => rfl) (fun _ _ _ => rfl)]
  cases surveyor.judged loc with
  | error failure => rfl
  | ok found =>
      have hproject : surveyor.foundProject (found.2.timed time) =
          surveyor.foundProject found.2 := rfl
      show (surveyor.foundProject (found.2.timed time)).map _ =
        ((surveyor.foundProject found.2).map _).map _
      rw [hproject]
      cases surveyor.foundProject found.2 with
      | error failure => rfl
      | ok id => exact congrArg Except.ok (found.2.withExternalId?_timed id time)

theorem repaired_timed (surveyor : Surveyor Id) (provenance : Provenance) (asset : Asset)
    (loc : Location) (time : Option Instant) :
    surveyor.repaired provenance asset (loc.timed time) =
      (surveyor.repaired provenance asset loc).map fun next => next.timed time := by
  have hsource : surveyor.foundSource provenance asset (loc.timed time) =
      surveyor.foundSource provenance asset loc := rfl
  unfold Surveyor.repaired
  rw [hsource]
  cases surveyor.foundSource provenance asset loc with
  | error failure => rfl
  | ok place =>
      show surveyor.placed provenance ((loc.timed time).withOrigin? place) =
        (surveyor.placed provenance (loc.withOrigin? place)).map _
      have hsystem : surveyor.foundSystem provenance ((loc.withOrigin? place).timed time) =
          surveyor.foundSystem provenance (loc.withOrigin? place) := rfl
      unfold Surveyor.placed
      rw [Location.withOrigin?_timed, hsystem]
      cases surveyor.foundSystem provenance (loc.withOrigin? place) with
      | error failure => rfl
      | ok system =>
          show Except.ok (Surveyor.filled (((loc.withOrigin? place).timed time).withOrigin? system))
            = Except.ok _
          rw [Location.withOrigin?_timed, filled_timed]

/-- Where an item settles does not depend on when it was checked. -/
theorem settled_timed (surveyor : Surveyor Id) (provenance : Provenance) (item : Tracked)
    (loc : Location) (time : Option Instant) :
    surveyor.settled provenance item (loc.timed time) =
      (surveyor.settled provenance item loc).map fun next => next.timed time := by
  cases item with
  | tileServer server => exact reconciled_timed surveyor loc time
  | asset asset =>
      unfold Surveyor.settled
      dsimp only
      rw [repaired_timed]
      cases surveyor.repaired provenance asset loc with
      | error failure => rfl
      | ok next => exact reconciled_timed surveyor next time

/-!
## Rest

What a pass has done need not be done again: every part of it finds nothing to do at
the location that the pass made.
-/

structure Location.SameOrigin (a b : Location) : Prop where
  system : b.originSystem = a.originSystem
  path : b.originPath = a.originPath

theorem foundSource_congr {a b : Location} (h : a.SameOrigin b) (surveyor : Surveyor Id)
    (provenance : Provenance) (asset : Asset) :
    surveyor.foundSource provenance asset b = surveyor.foundSource provenance asset a := by
  unfold Surveyor.foundSource Surveyor.missingSource?
  rw [h.system, h.path]

theorem foundSystem_congr {a b : Location} (h : a.SameOrigin b) (surveyor : Surveyor Id)
    (provenance : Provenance) :
    surveyor.foundSystem provenance b = surveyor.foundSystem provenance a := by
  unfold Surveyor.foundSystem
  rw [h.system, h.path]

theorem foundSource_withOrigin? {surveyor : Surveyor Id} {provenance : Provenance}
    {asset : Asset} {loc : Location} (h : surveyor.foundSource provenance asset loc = .ok none)
    (place : Option (String × String)) :
    surveyor.foundSource provenance asset (loc.withOrigin? place) = .ok none := by
  cases place with
  | none => exact h
  | some place => rfl

theorem foundSource_rest {surveyor : Surveyor Id} {provenance : Provenance} {asset : Asset}
    {loc : Location} {place : Option (String × String)}
    (h : surveyor.foundSource provenance asset loc = .ok place) :
    surveyor.foundSource provenance asset (loc.withOrigin? place) = .ok none := by
  cases place with
  | none => exact h
  | some place => rfl

theorem foundSystem_rest {surveyor : Surveyor Id} {provenance : Provenance}
    {loc : Location} {place : Option (String × String)}
    (h : surveyor.foundSystem provenance loc = .ok place) :
    surveyor.foundSystem provenance (loc.withOrigin? place) = .ok none := by
  cases place with
  | none => exact h
  | some place => rfl

theorem filled_sameOrigin (loc : Location) : loc.SameOrigin (Surveyor.filled loc) := by
  rw [filled_eq]
  cases Surveyor.completion? loc <;> exact ⟨rfl, rfl⟩

theorem completion?_filled (loc : Location) :
    Surveyor.completion? (Surveyor.filled loc) = none := by
  rw [filled_eq]
  cases h : Surveyor.completion? loc with
  | none => exact h
  | some place => rfl

section Rest

variable {provenance : Provenance} {asset : Asset} {loc next : Location}

theorem of_repaired_eq_ok (h : surveyor.repaired provenance asset loc = .ok next) :
    exists source system,
      surveyor.foundSource provenance asset loc = .ok source ∧
      surveyor.foundSystem provenance (loc.withOrigin? source) = .ok system ∧
      next = Surveyor.filled ((loc.withOrigin? source).withOrigin? system) := by
  unfold Surveyor.repaired at h
  cases hsource : surveyor.foundSource provenance asset loc with
  | error failure =>
      rw [hsource] at h
      cases h
  | ok source =>
      rw [hsource] at h
      change (surveyor.foundSystem provenance (loc.withOrigin? source)).map _ = .ok next at h
      cases hsystem : surveyor.foundSystem provenance (loc.withOrigin? source) with
      | error failure =>
          rw [hsystem] at h
          cases h
      | ok system =>
          rw [hsystem] at h
          cases h
          exact ⟨source, system, rfl, hsystem, rfl⟩

theorem repaired_rest (h : surveyor.repaired provenance asset loc = .ok next) :
    surveyor.foundSource provenance asset next = .ok none ∧
      surveyor.foundSystem provenance next = .ok none ∧
      Surveyor.completion? next = none := by
  rcases of_repaired_eq_ok h with ⟨source, system, hsource, hsystem, hnext⟩
  have horigin := filled_sameOrigin ((loc.withOrigin? source).withOrigin? system)
  rw [hnext]
  refine ⟨?_, ?_, completion?_filled _⟩
  · rw [foundSource_congr horigin]
    exact foundSource_withOrigin? (foundSource_rest hsource) system
  · rw [foundSystem_congr horigin]
    exact foundSystem_rest hsystem

theorem repaired_originPath (h : surveyor.repaired provenance asset loc = .ok next)
    (hpath : loc.originPath.isSome = true) : next.originPath.isSome = true := by
  have hwith : forall (loc : Location) place, loc.originPath.isSome = true ->
      (loc.withOrigin? place).originPath.isSome = true := by
    intro loc place hloc
    cases place with
    | none => exact hloc
    | some place => rfl
  rcases of_repaired_eq_ok h with ⟨source, system, _, _, hnext⟩
  rw [hnext, (filled_sameOrigin _).path]
  exact hwith _ system (hwith loc source hpath)

theorem repaired_of_rest (hsource : surveyor.foundSource provenance asset loc = .ok none)
    (hsystem : surveyor.foundSystem provenance loc = .ok none)
    (hcompletion : Surveyor.completion? loc = none) :
    surveyor.repaired provenance asset loc = .ok loc := by
  unfold Surveyor.repaired
  rw [hsource]
  show (surveyor.foundSystem provenance loc).map _ = _
  rw [hsystem]
  show Except.ok (Surveyor.filled loc) = _
  rw [filled_eq, hcompletion]

theorem judged_rest {verdict : Verdict}
    (hpublic : surveyor.engine.isPublicSystem surveyor.engine.publishedSystem = true)
    (h : surveyor.judged loc = .ok (verdict, next)) :
    loc.SameOrigin next ∧
      (Surveyor.completion? loc = none -> Surveyor.completion? next = none) ∧
      exists again, surveyor.judged next = .ok (again, next) := by
  unfold Surveyor.judged at h
  cases hcurrent : loc.currentSystem with
  | none =>
      rw [hcurrent] at h
      cases h
      refine ⟨⟨rfl, rfl⟩, id, .unknown, ?_⟩
      unfold Surveyor.judged
      rw [hcurrent]
  | some system =>
      rw [hcurrent] at h
      cases hsystem : surveyor.engine.isPublicSystem system with
      | true =>
          simp only [hsystem, if_true] at h
          cases h
          refine ⟨⟨rfl, rfl⟩, id, .alreadyPublic, ?_⟩
          simp only [Surveyor.judged, Location.withPublic, hcurrent, hsystem, if_true]
      | false =>
          simp only [hsystem, Bool.false_eq_true, if_false] at h
          cases hcopied : surveyor.copied system with
          | error failure =>
              rw [hcopied] at h
              cases h
          | ok index =>
              rw [hcopied] at h
              cases hfound : index.bind fun index => loc.currentPath.bind index.resolve? with
              | none =>
                  simp only [hfound] at h
                  cases h
                  refine ⟨⟨rfl, rfl⟩, id, .notPublic, ?_⟩
                  simp only [Surveyor.judged, Location.withPublic, hcurrent, hsystem,
                    Bool.false_eq_true, if_false, hcopied, hfound]
              | some path =>
                  simp only [hfound] at h
                  cases h
                  refine ⟨⟨rfl, rfl⟩, fun _ => rfl, .alreadyPublic, ?_⟩
                  simp only [Surveyor.judged, Location.withPublic, Location.withCurrent,
                    hpublic, if_true]

theorem of_reconciled_eq_ok (h : surveyor.reconciled loc = .ok next) :
    exists verdict between id, surveyor.judged loc = .ok (verdict, between) ∧
      surveyor.foundProject between = .ok id ∧ next = between.withExternalId? id := by
  unfold Surveyor.reconciled at h
  cases hjudged : surveyor.judged loc with
  | error failure =>
      rw [hjudged] at h
      cases h
  | ok found =>
      rcases found with ⟨verdict, between⟩
      rw [hjudged] at h
      change (surveyor.foundProject between).map _ = .ok next at h
      cases hproject : surveyor.foundProject between with
      | error failure =>
          rw [hproject] at h
          cases h
      | ok id =>
          rw [hproject] at h
          cases h
          exact ⟨verdict, between, id, rfl, hproject, rfl⟩

theorem reconciled_rest
    (hpublic : surveyor.engine.isPublicSystem surveyor.engine.publishedSystem = true)
    (h : surveyor.reconciled loc = .ok next) :
    loc.SameOrigin next ∧
      (Surveyor.completion? loc = none -> Surveyor.completion? next = none) ∧
      surveyor.reconciled next = .ok next := by
  rcases of_reconciled_eq_ok h with ⟨verdict, between, id, hjudged, hproject, hnext⟩
  rcases judged_rest hpublic hjudged with ⟨horigin, hcompletion, again, hagain⟩
  have hsame : between.SameOrigin (between.withExternalId? id) := by
    cases id <;> exact ⟨rfl, rfl⟩
  rw [hnext]
  refine ⟨⟨hsame.system.trans horigin.system, hsame.path.trans horigin.path⟩, ?_, ?_⟩
  · intro hnone
    have hbetween := hcompletion hnone
    cases id <;> exact hbetween
  · have hjudged' : surveyor.judged (between.withExternalId? id) =
        .ok (again, between.withExternalId? id) := by
      rw [judged_map surveyor (fun loc => loc.withExternalId? id)
        (by cases id <;> exact fun _ => rfl) (by cases id <;> exact fun _ => rfl)
        (by cases id <;> exact fun _ _ => rfl) (by cases id <;> exact fun _ _ _ => rfl),
        hagain]
      rfl
    have hproject' : surveyor.foundProject (between.withExternalId? id) = .ok id := by
      cases id <;> exact hproject
    unfold Surveyor.reconciled
    rw [hjudged']
    show (surveyor.foundProject (between.withExternalId? id)).map _ = _
    rw [hproject']
    cases id <;> rfl

theorem of_settled_asset_eq_ok
    (h : surveyor.settled provenance (.asset asset) loc = .ok next) :
    exists between, surveyor.repaired provenance asset loc = .ok between ∧
      surveyor.reconciled between = .ok next := by
  unfold Surveyor.settled at h
  dsimp only at h
  cases hrepaired : surveyor.repaired provenance asset loc with
  | error failure =>
      rw [hrepaired] at h
      cases h
  | ok between =>
      rw [hrepaired] at h
      exact ⟨between, rfl, h⟩

/-- Where an item has settled it stays. -/
theorem settled_rest {item : Tracked}
    (hpublic : surveyor.engine.isPublicSystem surveyor.engine.publishedSystem = true)
    (h : surveyor.settled provenance item loc = .ok next) :
    surveyor.settled provenance item next = .ok next := by
  cases item with
  | tileServer server => exact (reconciled_rest hpublic h).2.2
  | asset asset =>
      rcases of_settled_asset_eq_ok h with ⟨between, hrepaired, hreconciled⟩
      rcases repaired_rest hrepaired with ⟨hsource, hsystem, hcompletion⟩
      rcases reconciled_rest hpublic hreconciled with ⟨horigin, hcompletion', hagain⟩
      have hrest : surveyor.repaired provenance asset next = .ok next :=
        repaired_of_rest ((foundSource_congr horigin surveyor provenance asset).trans hsource)
          ((foundSystem_congr horigin surveyor provenance).trans hsystem)
          (hcompletion' hcompletion)
      show (surveyor.repaired provenance asset next).bind _ = _
      rw [hrest]
      exact hagain

theorem settled_originPath {item : Tracked}
    (hpublic : surveyor.engine.isPublicSystem surveyor.engine.publishedSystem = true)
    (h : surveyor.settled provenance item loc = .ok next) (hpath : loc.originPath.isSome = true) :
    next.originPath.isSome = true := by
  cases item with
  | tileServer server =>
      rw [(reconciled_rest hpublic h).1.path]
      exact hpath
  | asset asset =>
      rcases of_settled_asset_eq_ok h with ⟨between, hrepaired, hreconciled⟩
      rw [(reconciled_rest hpublic hreconciled).1.path]
      exact repaired_originPath hrepaired hpath

theorem settled_moved (surveyor : Surveyor Id) (provenance : Provenance) (item : Tracked)
    (other loc : Location) :
    surveyor.settled provenance (item.moved other) loc =
      surveyor.settled provenance item loc := by
  cases item <;> rfl

end Rest

end Whereabouts
