import Whereabouts.Proofs.MemoryWorld
import Whereabouts.Proofs.OrderedMap

/-!
# Transparent caches

With a storage of fixed answers, what is remembered is what would be found again.  A
step then does to a location what it does where nothing is cached, and leaves only
such memories behind.
-/

namespace Whereabouts

variable {α β : Type}

/-!
## Steps over fixed answers
-/

namespace Step

def on (y : Step Id α) (bench : Bench) : Except StorageError α × Bench :=
  (y.run.run bench).run

/-- What a step makes of a location where nothing is cached. -/
def alone (y : Step Id α) (loc : Location) : Except StorageError α × Location :=
  let out := y.on { location := loc, caches := .empty }
  (out.1, out.2.location)

theorem on_bind_of_ok {x : Step Id α} {f : α -> Step Id β} {bench after : Bench} {a : α}
    (h : x.on bench = (.ok a, after)) : (x >>= f).on bench = (f a).on after := by
  unfold on at *
  rw [ExceptT.run_bind, StateT.run_bind, Id.run_bind, h]

theorem on_bind_of_error {x : Step Id α} {f : α -> Step Id β} {bench after : Bench}
    {failure : StorageError} (h : x.on bench = (.error failure, after)) :
    (x >>= f).on bench = (.error failure, after) := by
  unfold on at *
  rw [ExceptT.run_bind, StateT.run_bind, Id.run_bind, h]
  rfl

theorem on_remembered_of_some {cache : Caches -> OrderedMap String α}
    {keep : OrderedMap String α -> Caches -> Caches} {system : String} {make : Step Id α}
    {bench : Bench} {value : α} (h : (cache bench.caches).get? system = some value) :
    (remembered cache keep system make).on bench = (.ok value, bench) := by
  have hget : (get : Step Id Bench).on bench = (.ok bench, bench) := rfl
  unfold remembered
  rw [on_bind_of_ok hget, h]
  rfl

theorem on_remembered_of_error {cache : Caches -> OrderedMap String α}
    {keep : OrderedMap String α -> Caches -> Caches} {system : String} {make : Step Id α}
    {bench after : Bench} {failure : StorageError}
    (h : (cache bench.caches).get? system = none)
    (hmake : make.on bench = (.error failure, after)) :
    (remembered cache keep system make).on bench = (.error failure, after) := by
  have hget : (get : Step Id Bench).on bench = (.ok bench, bench) := rfl
  unfold remembered
  rw [on_bind_of_ok hget, h]
  exact on_bind_of_error hmake

theorem on_remembered_of_ok {cache : Caches -> OrderedMap String α}
    {keep : OrderedMap String α -> Caches -> Caches} {system : String} {make : Step Id α}
    {bench after : Bench} {value : α} (h : (cache bench.caches).get? system = none)
    (hmake : make.on bench = (.ok value, after)) :
    (remembered cache keep system make).on bench =
      (.ok value, { after with
        caches := keep ((cache after.caches).insert system value) after.caches }) := by
  have hget : (get : Step Id Bench).on bench = (.ok bench, bench) := rfl
  unfold remembered
  rw [on_bind_of_ok hget, h]
  exact on_bind_of_ok hmake

end Step

/-!
## Coherence
-/

namespace Surveyor

/-- The external project of a project's own system, asked for anew. -/
def linked (surveyor : Surveyor Id) (system : String) : Except StorageError (Option String) :=
  match surveyor.engine.projectUuid? system with
  | none => .ok none
  | some _ => (surveyor.storage.externalId system).run.run

def copied (surveyor : Surveyor Id) (system : String) :
    Except StorageError (Option FileIndex) :=
  match surveyor.linked system with
  | .error failure => .error failure
  | .ok none => .ok none
  | .ok (some id) =>
      .ok (some (surveyor.index surveyor.engine.publishedSystem
        (surveyor.engine.publishedRoot id)).run)

end Surveyor

/-- What is cached is what would be found. -/
structure Coherent (surveyor : Surveyor Id) (caches : Caches) : Prop where
  published : forall system index, caches.published.get? system = some index ->
    surveyor.copied system = .ok index
  owners : forall system index, caches.owners.get? system = some index ->
    (surveyor.index system "/").run = index
  externalIds : forall system id, caches.externalIds.get? system = some id ->
    (surveyor.storage.externalId system).run.run = .ok id

theorem Coherent.empty (surveyor : Surveyor Id) : Coherent surveyor .empty where
  published := (fun _ _ h => nomatch h)
  owners := (fun _ _ h => nomatch h)
  externalIds := (fun _ _ h => nomatch h)

/-- A step for which coherent caches make no difference, and which keeps them
coherent. -/
def Transparent (surveyor : Surveyor Id) (y : Step Id α) : Prop :=
  forall loc caches, Coherent surveyor caches -> exists after,
    y.on { location := loc, caches } =
      ((y.alone loc).1, { location := (y.alone loc).2, caches := after }) ∧
    Coherent surveyor after

variable {surveyor : Surveyor Id}

theorem Step.alone_bind_of_ok {x : Step Id α} {f : α -> Step Id β} {loc next : Location} {a : α}
    (hx : Transparent surveyor x) (hf : Transparent surveyor (f a))
    (h : x.alone loc = (.ok a, next)) : (x >>= f).alone loc = (f a).alone next := by
  rcases hx loc _ (Coherent.empty surveyor) with ⟨after, hon, hcoherent⟩
  rw [h] at hon
  rcases hf next after hcoherent with ⟨final, hon', _⟩
  unfold Step.alone
  rw [Step.on_bind_of_ok hon, hon']
  rfl

theorem Step.alone_bind_of_error {x : Step Id α} {f : α -> Step Id β} {loc next : Location}
    {failure : StorageError} (h : x.alone loc = (.error failure, next)) :
    (x >>= f).alone loc = (.error failure, next) := by
  unfold Step.alone at *
  rcases hon : x.on { location := loc, caches := .empty } with ⟨result, after⟩
  rw [hon] at h
  cases h
  rw [Step.on_bind_of_error hon]

theorem transparent_pure (a : α) : Transparent surveyor (pure a : Step Id α) :=
  fun _ caches hcaches => ⟨caches, rfl, hcaches⟩

theorem transparent_throw (failure : StorageError) :
    Transparent surveyor (throw failure : Step Id α) :=
  fun _ caches hcaches => ⟨caches, rfl, hcaches⟩

theorem transparent_bind {x : Step Id α} {f : α -> Step Id β} (hx : Transparent surveyor x)
    (hf : forall a, Transparent surveyor (f a)) : Transparent surveyor (x >>= f) := by
  intro loc caches hcaches
  rcases hx loc caches hcaches with ⟨after, hon, hafter⟩
  rcases halone : x.alone loc with ⟨result, next⟩
  rw [halone] at hon
  cases result with
  | error failure =>
      rw [Step.alone_bind_of_error halone]
      exact ⟨after, Step.on_bind_of_error hon, hafter⟩
  | ok a =>
      rcases hf a next after hafter with ⟨final, hon', hfinal⟩
      rw [Step.alone_bind_of_ok hx (hf a) halone]
      exact ⟨final, (Step.on_bind_of_ok hon).trans hon', hfinal⟩

theorem transparent_location : Transparent surveyor (Step.location : Step Id Location) :=
  fun _ caches hcaches => ⟨caches, rfl, hcaches⟩

theorem transparent_setLocation (loc : Location) :
    Transparent surveyor (Step.setLocation loc : Step Id Unit) :=
  fun _ caches hcaches => ⟨caches, rfl, hcaches⟩

theorem transparent_call (remote : Remote Id α) :
    Transparent surveyor (Step.call remote) := by
  intro loc caches hcaches
  refine ⟨caches, ?_, hcaches⟩
  rfl

theorem transparent_effect (action : Id α) : Transparent surveyor (Step.effect action) :=
  fun _ caches hcaches => ⟨caches, rfl, hcaches⟩

theorem transparent_attempt (remote : Remote Id α) :
    Transparent surveyor (Step.attempt remote) :=
  fun _ caches hcaches => ⟨caches, rfl, hcaches⟩

theorem remembered_spec {cache : Caches -> OrderedMap String α}
    {keep : OrderedMap String α -> Caches -> Caches} {system : String} {make : Step Id α}
    {result : Except StorageError α} (hmake : Transparent surveyor make)
    (halone : forall loc, make.alone loc = (result, loc))
    (hhit : forall caches value, Coherent surveyor caches ->
      (cache caches).get? system = some value -> result = .ok value)
    (hkeep : forall caches value, Coherent surveyor caches -> result = .ok value ->
      Coherent surveyor (keep ((cache caches).insert system value) caches)) :
    Transparent surveyor (Step.remembered cache keep system make) ∧
      forall loc, (Step.remembered cache keep system make).alone loc = (result, loc) := by
  have hon : forall loc caches, Coherent surveyor caches -> exists after,
      (Step.remembered cache keep system make).on { location := loc, caches } =
        (result, { location := loc, caches := after }) ∧ Coherent surveyor after := by
    intro loc caches hcaches
    cases hcache : (cache caches).get? system with
    | some value =>
        rw [hhit caches value hcaches hcache]
        exact ⟨caches, Step.on_remembered_of_some hcache, hcaches⟩
    | none =>
        rcases hmake loc caches hcaches with ⟨after, hmade, hafter⟩
        rw [halone loc] at hmade
        cases result with
        | error failure =>
            exact ⟨after, Step.on_remembered_of_error hcache hmade, hafter⟩
        | ok value =>
            exact ⟨_, Step.on_remembered_of_ok hcache hmade, hkeep after value hafter rfl⟩
  have hresult : forall loc,
      (Step.remembered cache keep system make).alone loc = (result, loc) := by
    intro loc
    rcases hon loc .empty (Coherent.empty surveyor) with ⟨after, hrun, _⟩
    unfold Step.alone
    rw [hrun]
  refine ⟨?_, hresult⟩
  intro loc caches hcaches
  rw [hresult loc]
  exact hon loc caches hcaches

/-!
## Passes
-/

theorem projectOf_spec (surveyor : Surveyor Id) (system : String) :
    Transparent surveyor (surveyor.projectOf system) ∧
      forall loc, (surveyor.projectOf system).alone loc = (surveyor.linked system, loc) := by
  unfold Surveyor.projectOf
  cases hsystem : surveyor.engine.projectUuid? system with
  | none =>
      refine ⟨transparent_pure none, ?_⟩
      intro loc
      unfold Surveyor.linked
      rw [hsystem]
      rfl
  | some uuid =>
      have hlinked : surveyor.linked system =
          (surveyor.storage.externalId system).run.run := by
        unfold Surveyor.linked
        rw [hsystem]
      rw [hlinked]
      apply remembered_spec (transparent_call _) (fun _ => rfl)
      · intro caches value hcaches hvalue
        exact hcaches.externalIds system value hvalue
      · intro caches value hcaches hvalue
        refine ⟨hcaches.published, hcaches.owners, ?_⟩
        exact OrderedMap.forall_get?_insert hcaches.externalIds hvalue

theorem publishedCopy_spec (surveyor : Surveyor Id) (system : String) :
    Transparent surveyor (surveyor.publishedCopy system) ∧
      forall loc, (surveyor.publishedCopy system).alone loc = (surveyor.copied system, loc) := by
  rcases projectOf_spec surveyor system with ⟨hproject, hlinked⟩
  unfold Surveyor.publishedCopy
  cases hsystem : surveyor.engine.projectUuid? system with
  | none =>
      refine ⟨transparent_pure none, ?_⟩
      intro loc
      unfold Surveyor.copied Surveyor.linked
      rw [hsystem]
      rfl
  | some uuid =>
      refine ⟨transparent_bind hproject ?_, ?_⟩
      · intro project
        cases project with
        | none => exact transparent_pure none
        | some id => exact transparent_bind (transparent_effect _) fun _ => transparent_pure _
      · intro loc
        have halone := hlinked loc
        unfold Surveyor.copied
        cases hlink : surveyor.linked system with
        | error failure =>
            rw [hlink] at halone
            exact Step.alone_bind_of_error halone
        | ok project =>
            rw [hlink] at halone
            cases project with
            | none =>
                refine (Step.alone_bind_of_ok hproject ?_ halone).trans rfl
                exact transparent_pure none
            | some id =>
                refine (Step.alone_bind_of_ok hproject ?_ halone).trans rfl
                exact transparent_bind (transparent_effect _) fun _ => transparent_pure _

theorem recallPublished_spec (surveyor : Surveyor Id) (system : String) :
    Transparent surveyor (Step.recallPublished system (surveyor.publishedCopy system)) ∧
      forall loc, (Step.recallPublished system (surveyor.publishedCopy system)).alone loc =
        (surveyor.copied system, loc) := by
  rcases publishedCopy_spec surveyor system with ⟨hcopy, halone⟩
  apply remembered_spec hcopy halone
  · intro caches value hcaches hvalue
    exact hcaches.published system value hvalue
  · intro caches value hcaches hvalue
    refine ⟨?_, hcaches.owners, hcaches.externalIds⟩
    exact OrderedMap.forall_get?_insert hcaches.published hvalue

theorem recallOwner_spec (surveyor : Surveyor Id) (system : String) :
    Transparent surveyor (Step.recallOwner system (.effect (surveyor.index system "/"))) ∧
      forall loc,
        (Step.recallOwner system (.effect (surveyor.index system "/"))).alone loc =
          (.ok (surveyor.index system "/").run, loc) := by
  apply remembered_spec (transparent_effect _) (fun _ => rfl)
  · intro caches value hcaches hvalue
    exact congrArg Except.ok (hcaches.owners system value hvalue)
  · intro caches value hcaches hvalue
    refine ⟨hcaches.published, ?_, hcaches.externalIds⟩
    exact OrderedMap.forall_get?_insert hcaches.owners (Except.ok.inj hvalue)

theorem transparent_judge (surveyor : Surveyor Id) : Transparent surveyor surveyor.judge := by
  apply transparent_bind transparent_location
  intro loc
  cases loc.currentSystem with
  | none => exact transparent_pure _
  | some system =>
      show Transparent surveyor (if surveyor.engine.isPublicSystem system then _ else _)
      split
      · exact transparent_bind (transparent_setLocation _) fun _ => transparent_pure _
      · apply transparent_bind (recallPublished_spec surveyor system).1
        intro index
        cases index.bind fun index => loc.currentPath.bind index.resolve? with
        | none => exact transparent_bind (transparent_setLocation _) fun _ => transparent_pure _
        | some path =>
            exact transparent_bind (transparent_setLocation _) fun _ => transparent_pure _

theorem transparent_assignProject (surveyor : Surveyor Id) :
    Transparent surveyor surveyor.assignProject := by
  apply transparent_bind transparent_location
  intro loc
  cases surveyor.publishedProject? loc with
  | some id => exact transparent_setLocation _
  | none =>
      cases surveyor.owningSystem? loc with
      | none => exact transparent_pure ()
      | some system =>
          apply transparent_bind (projectOf_spec surveyor system).1
          intro project
          cases project with
          | none => exact transparent_pure ()
          | some id => exact transparent_setLocation _

theorem transparent_reconcile (surveyor : Surveyor Id) :
    Transparent surveyor surveyor.reconcile :=
  transparent_bind (transparent_judge surveyor) fun verdict =>
    transparent_bind (transparent_assignProject surveyor) fun _ => transparent_pure verdict

theorem transparent_confirmSource (surveyor : Surveyor Id) (loc : Location)
    (owner found : String) : Transparent surveyor (surveyor.confirmSource loc owner found) := by
  apply transparent_bind (transparent_attempt _)
  intro answer
  cases answer with
  | ok entry => exact transparent_bind (transparent_setLocation _) fun _ => transparent_pure true
  | error failure =>
      cases failure with
      | notListable system path => exact transparent_pure false
      | _ => exact transparent_throw _

theorem transparent_recoverSource (surveyor : Surveyor Id) (provenance : Provenance)
    (asset : Asset) : Transparent surveyor (surveyor.recoverSource provenance asset) := by
  apply transparent_bind transparent_location
  intro loc
  cases Surveyor.missingSource? provenance asset loc with
  | none => exact transparent_pure false
  | some source =>
      rcases source with ⟨name, owner⟩
      apply transparent_bind (recallOwner_spec surveyor owner).1
      intro index
      cases index.resolve? name with
      | none => exact transparent_pure false
      | some found => exact transparent_confirmSource surveyor loc owner found

theorem transparent_recoverSystem (surveyor : Surveyor Id) (provenance : Provenance) :
    Transparent surveyor (surveyor.recoverSystem provenance) := by
  apply transparent_bind transparent_location
  intro loc
  cases loc.originSystem with
  | some system => exact transparent_pure false
  | none =>
      cases loc.originPath with
      | none => exact transparent_pure false
      | some path =>
          cases provenance.project.owningSystem? with
          | none => exact transparent_pure false
          | some owner =>
              apply transparent_bind (transparent_attempt _)
              intro answer
              cases answer with
              | ok listing =>
                  cases listing with
                  | nil => exact transparent_pure false
                  | cons entry rest =>
                      exact transparent_bind (transparent_setLocation _) fun _ =>
                        transparent_pure true
              | error failure =>
                  cases failure with
                  | notListable system path => exact transparent_pure false
                  | _ => exact transparent_throw _

theorem transparent_fillCurrent : Transparent surveyor (Surveyor.fillCurrent : Step Id Bool) := by
  apply transparent_bind transparent_location
  intro loc
  cases Surveyor.completedCurrent? loc with
  | none => exact transparent_pure false
  | some completed =>
      exact transparent_bind (transparent_setLocation completed) fun _ => transparent_pure true

theorem transparent_repair (surveyor : Surveyor Id) (provenance : Provenance) (asset : Asset) :
    Transparent surveyor (surveyor.repair provenance asset) :=
  transparent_bind (transparent_recoverSource surveyor provenance asset) fun _ =>
    transparent_bind (transparent_recoverSystem surveyor provenance) fun _ =>
      transparent_bind transparent_fillCurrent fun _ => transparent_pure _

/-- Coherent caches make no difference to a pass. -/
theorem transparent_pass (surveyor : Surveyor Id) (provenance : Provenance) (item : Tracked) :
    Transparent surveyor (surveyor.pass provenance item) := by
  cases item with
  | asset asset =>
      exact transparent_bind (transparent_repair surveyor provenance asset) fun _ =>
        transparent_reconcile surveyor
  | tileServer server => exact transparent_reconcile surveyor

/-!
## Items in sequence
-/

namespace Surveyor

variable {m : Type -> Type} [Monad m]

/-- Passes over items one after the other with one set of caches: for each item its
verdict or failure, and its location. -/
def treatAll (surveyor : Surveyor m) (provenance : Provenance) :
    List (Tracked × Instant) -> Caches -> m (List (Except StorageError Verdict × Location))
  | [], _ => return []
  | (item, time) :: rest, caches => do
      let (result, bench) <- surveyor.treat provenance item time caches
      let others <- surveyor.treatAll provenance rest bench.caches
      return (result, bench.location) :: others

end Surveyor

theorem treat_eq_alone (surveyor : Surveyor Id) (provenance : Provenance) (item : Tracked)
    (time : Instant) {caches : Caches} (h : Coherent surveyor caches) :
    exists after, Coherent surveyor after ∧
      (surveyor.treat provenance item time caches).run =
        (((surveyor.pass provenance item).alone (item.location.touched time)).1,
          { location := ((surveyor.pass provenance item).alone (item.location.touched time)).2,
            caches := after }) := by
  rcases transparent_pass surveyor provenance item (item.location.touched time) caches h with
    ⟨after, hon, hafter⟩
  exact ⟨after, hafter, hon⟩

theorem treatAll_eq_map_alone (surveyor : Surveyor Id) (provenance : Provenance)
    (items : List (Tracked × Instant)) {caches : Caches} (h : Coherent surveyor caches) :
    (surveyor.treatAll provenance items caches).run = items.map fun entry =>
      (surveyor.pass provenance entry.1).alone (entry.1.location.touched entry.2) := by
  induction items generalizing caches with
  | nil => rfl
  | cons entry rest ih =>
      rcases treat_eq_alone surveyor provenance entry.1 entry.2 h with ⟨after, hafter, htreat⟩
      have hrest := ih hafter
      unfold Surveyor.treatAll
      rw [Id.run_bind, htreat, Id.run_bind, hrest, List.map_cons]
      rfl

theorem Lockstep.rel_treatAll {m n : Type -> Type} [Monad m] [Monad n] {L : Lockstep m n}
    {surveyor : Surveyor m} {storage : Storage n} (h : L.Storages surveyor.storage storage)
    (provenance : Provenance) (items : List (Tracked × Instant)) (caches : Caches) :
    L.Rel (surveyor.treatAll provenance items caches)
      ((surveyor.over storage).treatAll provenance items caches) := by
  induction items generalizing caches with
  | nil => exact L.rel_pure []
  | cons entry rest ih =>
      apply L.rel_bind (Lockstep.rel_treat h provenance entry.1 entry.2 caches)
      intro out
      exact L.rel_bind (ih out.2.caches) fun others => L.rel_pure _

/-- Known external ids that a storage of fixed answers would give again. -/
def Agreeing (answers : Storage Id) (externalIds : OrderedMap String (Option String)) : Prop :=
  forall system id, externalIds.get? system = some id ->
    (answers.externalId system).run.run = .ok id

theorem Agreeing.coherent {surveyor : Surveyor Id}
    {externalIds : OrderedMap String (Option String)}
    (h : Agreeing surveyor.storage externalIds) :
    Coherent surveyor { Caches.empty with externalIds } where
  published := (fun _ _ h => nomatch h)
  owners := (fun _ _ h => nomatch h)
  externalIds := h

/-- Items that share their caches are treated as each of them alone, wherever remote
storage stands by then. -/
theorem treatAll_independent {σ : Type} {surveyor : Surveyor (StateM σ)} {answers : Storage Id}
    (hfollows : surveyor.storage.Follows answers) (provenance : Provenance)
    (items : List (Tracked × Instant)) {externalIds : OrderedMap String (Option String)}
    (hagreeing : Agreeing answers externalIds) (s t : σ) :
    ((surveyor.treatAll provenance items { Caches.empty with externalIds }).run s).1 =
      items.map fun entry =>
        let out := ((surveyor.treat provenance entry.1 entry.2 .empty).run t).1
        (out.1, out.2.location) := by
  have hcoherent : Coherent (surveyor.over answers) { Caches.empty with externalIds } :=
    Agreeing.coherent hagreeing
  have hall := Lockstep.rel_treatAll hfollows provenance items
    { Caches.empty with externalIds } s
  rw [hall]
  refine (treatAll_eq_map_alone (surveyor.over answers) provenance items hcoherent).trans ?_
  apply List.map_congr_left
  intro entry _
  have hone := Lockstep.rel_treat hfollows provenance entry.1 entry.2 .empty t
  dsimp only
  rw [hone]
  rfl

theorem treatAll_independent_sample :
    Agreeing Sample.answers (OrderedMap.empty.insert "project-a" (some "PRJ-1")) ∧
    ((Sample.surveyor.treatAll Sample.provenance Sample.items
        { Caches.empty with
          externalIds := OrderedMap.empty.insert "project-a" (some "PRJ-1") }).run
        Sample.memory).1 =
      Sample.items.map fun entry =>
        let out := ((Sample.surveyor.treat Sample.provenance entry.1 entry.2 .empty).run
          Sample.memory).1
        (out.1, out.2.location) := by
  have hagreeing : Agreeing Sample.answers
      (OrderedMap.empty.insert "project-a" (some "PRJ-1")) :=
    OrderedMap.forall_get?_insert (fun _ _ h => nomatch h) rfl
  exact ⟨hagreeing, treatAll_independent Sample.follows Sample.provenance Sample.items
    hagreeing Sample.memory Sample.memory⟩

end Whereabouts
