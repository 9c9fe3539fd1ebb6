import Whereabouts.Proofs.PassEffects
import Whereabouts.Proofs.Findings

/-!
# Passes at other times

A pass writes the time at which it starts into the location of its item and never reads
it, and the size of batches is none of its concern.  A pass at another time, in batches of
another size, asks remote storage the same, and what it finds differs in that time only.
-/

namespace Whereabouts

def Surveyor.batching {m : Type -> Type} (surveyor : Surveyor m) (size : Nat) : Surveyor m where
  storage := surveyor.storage
  engine := { surveyor.engine with batchSize := size }
  depth := surveyor.depth

def Bench.timed (bench : Bench) (time : Option Instant) : Bench :=
  { bench with location := bench.location.timed time }

variable {ω α β : Type} {time : Option Instant}

/-- A step that does on a bench of another time what one does on the bench. -/
def Step.Retimed (time : Option Instant) (x y : Step (StateM ω) α) : Prop :=
  forall bench world result after final, x.amid bench world = ((result, after), final) ->
    y.amid (bench.timed time) world = ((result, after.timed time), final)

/-!
## Steps
-/

theorem retimed_pure (a : α) : Step.Retimed time (pure a : Step (StateM ω) α) (pure a) := by
  intro bench world result after final hrun
  cases hrun
  rfl

theorem retimed_throw (failure : StorageError) :
    Step.Retimed time (throw failure : Step (StateM ω) α) (throw failure) := by
  intro bench world result after final hrun
  cases hrun
  rfl

theorem retimed_bind {x y : Step (StateM ω) α} {f g : α -> Step (StateM ω) β}
    (hx : Step.Retimed time x y) (hf : forall a, Step.Retimed time (f a) (g a)) :
    Step.Retimed time (x >>= f) (y >>= g) := by
  intro bench world result after final hrun
  rcases hfirst : x.amid bench world with ⟨⟨found, middle⟩, between⟩
  have hfirst' := hx bench world found middle between hfirst
  cases found with
  | error failure =>
      rw [Step.amid_bind_of_error hfirst] at hrun
      cases hrun
      exact Step.amid_bind_of_error hfirst'
  | ok a =>
      rw [Step.amid_bind_of_ok hfirst] at hrun
      rw [Step.amid_bind_of_ok hfirst']
      exact hf a middle between result after final hrun

theorem retimed_location_bind {f g : Location -> Step (StateM ω) α}
    (hf : forall loc, Step.Retimed time (f loc) (g (loc.timed time))) :
    Step.Retimed time (Step.location >>= f) (Step.location >>= g) :=
  fun bench world result after final hrun =>
    hf bench.location bench world result after final hrun

theorem retimed_setLocation (loc : Location) :
    Step.Retimed time (Step.setLocation loc : Step (StateM ω) Unit)
      (Step.setLocation (loc.timed time)) := by
  intro bench world result after final hrun
  cases hrun
  rfl

theorem retimed_place (loc : Location) (a : α) :
    Step.Retimed time (do Step.setLocation loc; return a : Step (StateM ω) α)
      (do Step.setLocation (loc.timed time); return a) :=
  retimed_bind (retimed_setLocation loc) fun _ => retimed_pure a

theorem retimed_effect (action : StateM ω α) :
    Step.Retimed time (Step.effect action) (Step.effect action) := by
  intro bench world result after final hrun
  cases hrun
  rfl

theorem retimed_attempt (remote : Remote (StateM ω) α) :
    Step.Retimed time (Step.attempt remote) (Step.attempt remote) :=
  retimed_effect remote.run

theorem retimed_call (remote : Remote (StateM ω) α) :
    Step.Retimed time (Step.call remote) (Step.call remote) := by
  intro bench world result after final hrun
  cases hrun
  rfl

theorem retimed_remembered {cache : Caches -> OrderedMap String α}
    {keep : OrderedMap String α -> Caches -> Caches} {system : String}
    {make make' : Step (StateM ω) α} (h : Step.Retimed time make make') :
    Step.Retimed time (Step.remembered cache keep system make)
      (Step.remembered cache keep system make') := by
  intro bench world result after final hrun
  have hget : forall bench : Bench, (get : Step (StateM ω) Bench).amid bench world =
      ((.ok bench, bench), world) := fun _ => rfl
  have hcaches : (bench.timed time).caches = bench.caches := rfl
  unfold Step.remembered at hrun ⊢
  rw [Step.amid_bind_of_ok (hget _)] at hrun ⊢
  rw [hcaches]
  cases hcache : (cache bench.caches).get? system with
  | some value =>
      rw [hcache] at hrun
      cases hrun
      rfl
  | none =>
      rw [hcache] at hrun
      have hkept : forall value, Step.Retimed (ω := ω) time
          (do
            modify fun bench : Bench => { bench with
              caches := keep ((cache bench.caches).insert system value) bench.caches }
            return value)
          (do
            modify fun bench : Bench => { bench with
              caches := keep ((cache bench.caches).insert system value) bench.caches }
            return value) := by
        intro value bench world result after final hrun
        cases hrun
        rfl
      exact retimed_bind h hkept bench world result after final hrun

/-!
## Passes
-/

namespace Surveyor

variable {surveyor : Surveyor (StateM ω)} {size : Nat}

theorem indexListing_batching (system : String) (depth : Nat) :
    (surveyor.batching size).indexListing system depth =
      surveyor.indexListing system depth := by
  induction depth with
  | zero => rfl
  | succ depth ih =>
      funext entries
      unfold indexListing
      rw [ih]
      rfl

theorem index_batching (system root : String) :
    (surveyor.batching size).index system root = surveyor.index system root := by
  unfold index
  rw [indexListing_batching]
  rfl

theorem build_batching (target : IndexTarget) :
    (surveyor.batching size).build target = surveyor.build target := by
  cases target <;> exact index_batching _ _

@[simp] theorem projectUuid?_batching (system : String) :
    (surveyor.batching size).engine.projectUuid? system =
      surveyor.engine.projectUuid? system := rfl

@[simp] theorem isPublicSystem_batching (system : String) :
    (surveyor.batching size).engine.isPublicSystem system =
      surveyor.engine.isPublicSystem system := rfl

@[simp] theorem publishedProject?_batching (loc : Location) :
    (surveyor.batching size).publishedProject? (loc.timed time) =
      surveyor.publishedProject? loc := rfl

@[simp] theorem owningSystem?_batching (loc : Location) :
    (surveyor.batching size).owningSystem? (loc.timed time) =
      surveyor.owningSystem? loc := rfl

theorem retimed_projectOf (system : String) :
    Step.Retimed time (surveyor.projectOf system)
      ((surveyor.batching size).projectOf system) := by
  unfold projectOf
  rw [projectUuid?_batching]
  cases surveyor.engine.projectUuid? system with
  | none => exact retimed_pure none
  | some uuid => exact retimed_remembered (retimed_call _)

theorem retimed_publishedCopy (system : String) :
    Step.Retimed time (surveyor.publishedCopy system)
      ((surveyor.batching size).publishedCopy system) := by
  unfold publishedCopy
  rw [projectUuid?_batching]
  cases surveyor.engine.projectUuid? system with
  | none => exact retimed_pure none
  | some uuid =>
      apply retimed_bind (retimed_projectOf system)
      intro project
      cases project with
      | none => exact retimed_pure none
      | some id =>
          dsimp only
          rw [build_batching]
          exact retimed_bind (retimed_effect _) fun index => retimed_pure (some index)

theorem retimed_judge :
    Step.Retimed time surveyor.judge (surveyor.batching size).judge := by
  apply retimed_location_bind
  intro loc
  have hsystem : (loc.timed time).currentSystem = loc.currentSystem := rfl
  have hpath : (loc.timed time).currentPath = loc.currentPath := rfl
  rw [hsystem, hpath]
  cases loc.currentSystem with
  | none => exact retimed_pure _
  | some system =>
      dsimp only
      rw [isPublicSystem_batching]
      split
      · exact retimed_place _ _
      · apply retimed_bind (retimed_remembered (retimed_publishedCopy system))
        intro index
        cases index.bind fun index => loc.currentPath.bind index.resolve? with
        | none => exact retimed_place _ _
        | some path => exact retimed_place _ _

theorem retimed_assignProject :
    Step.Retimed time surveyor.assignProject (surveyor.batching size).assignProject := by
  apply retimed_location_bind
  intro loc
  rw [publishedProject?_batching, owningSystem?_batching]
  cases surveyor.publishedProject? loc with
  | some id => exact retimed_setLocation _
  | none =>
      cases surveyor.owningSystem? loc with
      | none => exact retimed_pure ()
      | some system =>
          apply retimed_bind (retimed_projectOf system)
          intro project
          cases project with
          | none => exact retimed_pure ()
          | some id => exact retimed_setLocation _

theorem retimed_reconcile :
    Step.Retimed time surveyor.reconcile (surveyor.batching size).reconcile :=
  retimed_bind retimed_judge fun verdict =>
    retimed_bind retimed_assignProject fun _ => retimed_pure verdict

theorem retimed_confirmSource (loc : Location) (owner found : String) :
    Step.Retimed time (surveyor.confirmSource loc owner found)
      ((surveyor.batching size).confirmSource (loc.timed time) owner found) := by
  apply retimed_bind (retimed_attempt _)
  intro answer
  cases answer with
  | ok entry => exact retimed_place _ _
  | error failure =>
      cases failure with
      | notListable system path => exact retimed_pure false
      | _ => exact retimed_throw _

theorem retimed_recoverSource (provenance : Provenance) (asset : Asset) :
    Step.Retimed time (surveyor.recoverSource provenance asset)
      ((surveyor.batching size).recoverSource provenance asset) := by
  apply retimed_location_bind
  intro loc
  have htimed : missingSource? provenance asset (loc.timed time) =
      missingSource? provenance asset loc := rfl
  rw [htimed]
  cases missingSource? provenance asset loc with
  | none => exact retimed_pure false
  | some source =>
      rcases source with ⟨name, owner⟩
      dsimp only
      rw [build_batching]
      apply retimed_bind (retimed_remembered (retimed_effect _))
      intro index
      cases index.resolve? name with
      | none => exact retimed_pure false
      | some found => exact retimed_confirmSource loc owner found

theorem retimed_recoverSystem (provenance : Provenance) :
    Step.Retimed time (surveyor.recoverSystem provenance)
      ((surveyor.batching size).recoverSystem provenance) := by
  apply retimed_location_bind
  intro loc
  rcases loc with ⟨_ | system, _ | path, currentSystem, currentPath, id, shown, checked⟩
  case none.some =>
      cases provenance.project.owningSystem? with
      | none => exact retimed_pure false
      | some owner =>
          apply retimed_bind (retimed_attempt _)
          intro answer
          cases answer with
          | ok listing =>
              cases listing with
              | nil => exact retimed_pure false
              | cons entry rest => exact retimed_place _ _
          | error failure =>
              cases failure with
              | notListable system path => exact retimed_pure false
              | _ => exact retimed_throw _
  all_goals exact retimed_pure false

theorem completedCurrent?_timed (loc : Location) :
    completedCurrent? (loc.timed time) =
      (completedCurrent? loc).map fun completed => completed.timed time := by
  have htimed : completion? (loc.timed time) = completion? loc := rfl
  rw [completedCurrent?_eq, completedCurrent?_eq, htimed]
  cases completion? loc <;> rfl

theorem retimed_fillCurrent :
    Step.Retimed time (fillCurrent : Step (StateM ω) Bool) fillCurrent := by
  apply retimed_location_bind
  intro loc
  rw [completedCurrent?_timed]
  cases completedCurrent? loc with
  | none => exact retimed_pure false
  | some completed => exact retimed_place completed true

theorem retimed_repair (provenance : Provenance) (asset : Asset) :
    Step.Retimed time (surveyor.repair provenance asset)
      ((surveyor.batching size).repair provenance asset) :=
  retimed_bind (retimed_recoverSource provenance asset) fun _ =>
    retimed_bind (retimed_recoverSystem provenance) fun _ =>
      retimed_bind retimed_fillCurrent fun _ => retimed_pure _

/-- A pass at another time and in batches of another size. -/
theorem retimed_pass (provenance : Provenance) (item : Tracked) :
    Step.Retimed time (surveyor.pass provenance item)
      ((surveyor.batching size).pass provenance item) := by
  cases item with
  | asset asset =>
      exact retimed_bind (retimed_repair provenance asset) fun _ => retimed_reconcile
  | tileServer server => exact retimed_reconcile

theorem assess_batching (provenance : Provenance) (item : Tracked) (early late : Instant)
    (start : Caches × ω) :
    (surveyor.batching size).assess provenance item late start =
      ((surveyor.assess provenance item early start).1.map fun loc => loc.timed (some late),
        (surveyor.assess provenance item early start).2) := by
  unfold assess
  rcases hpass : (surveyor.treat provenance item early start.1).run start.2 with
    ⟨⟨result, bench⟩, final⟩
  have hlate : ((surveyor.batching size).treat provenance item late start.1).run start.2 =
      ((result, bench.timed (some late)), final) :=
    retimed_pass provenance item _ _ _ _ _ hpass
  rw [hlate]
  cases result <;> rfl

theorem checkedAt_of_assess {provenance : Provenance} {item : Tracked} {time : Instant}
    {start after : Caches × ω} {loc : Location}
    (h : surveyor.assess provenance item time start = (.ok loc, after)) :
    loc.checkedAt = some time := by
  have hsame : (surveyor.batching surveyor.engine.batchSize).assess provenance item time start =
      surveyor.assess provenance item time start := rfl
  rw [assess_batching provenance item time time start, h] at hsame
  have hloc : loc.timed (some time) = loc := by
    injection hsame with hresult
    injection hresult
  rw [← hloc]
  rfl

end Surveyor
end Whereabouts
