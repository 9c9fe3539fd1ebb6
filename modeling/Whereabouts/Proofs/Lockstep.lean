import Whereabouts.Proofs.Surroundings

/-!
# Passes in lockstep

The steps of a pass only ever call remote storage, so that two storages whose
calls are related give passes that are related.  The relation is between the
operations of two monads and has to be kept by doing one thing after another; one
instance compares a storage in a larger world with its own state, another one a
storage whose answers are fixed with those answers.
-/

namespace Whereabouts

/-- A relation between the operations of two monads that sequences keep. -/
structure Lockstep (m n : Type -> Type) [Monad m] [Monad n] where
  Rel : forall {α : Type}, m α -> n α -> Prop
  rel_pure : forall {α : Type} (a : α), Rel (pure a) (pure a)
  rel_bind : forall {α β : Type} {x : m α} {y : n α} {f : α -> m β} {g : α -> n β},
    Rel x y -> (forall a, Rel (f a) (g a)) -> Rel (x >>= f) (y >>= g)

def Surveyor.over {m n : Type -> Type} (surveyor : Surveyor m) (storage : Storage n) :
    Surveyor n where
  storage := storage
  engine := surveyor.engine
  depth := surveyor.depth

section Over

variable {m n : Type -> Type} (surveyor : Surveyor m) (storage : Storage n)

@[simp] theorem Surveyor.over_engine : (surveyor.over storage).engine = surveyor.engine := rfl

@[simp] theorem Surveyor.publishedProject?_over (loc : Location) :
    (surveyor.over storage).publishedProject? loc = surveyor.publishedProject? loc := rfl

@[simp] theorem Surveyor.owningSystem?_over (loc : Location) :
    (surveyor.over storage).owningSystem? loc = surveyor.owningSystem? loc := rfl

end Over

namespace Lockstep

variable {m n : Type -> Type} [Monad m] [Monad n] (L : Lockstep m n) {α β : Type}

structure Storages (s : Storage m) (t : Storage n) : Prop where
  list : forall system path, L.Rel (s.list system path).run (t.list system path).run
  stat : forall system path, L.Rel (s.stat system path).run (t.stat system path).run
  externalId : forall system, L.Rel (s.externalId system).run (t.externalId system).run

def Steps (x : Step m α) (y : Step n α) : Prop :=
  forall bench, L.Rel (x.run.run bench) (y.run.run bench)

variable {L}

/-!
## Steps
-/

theorem steps_pure (a : α) : L.Steps (pure a) (pure a) :=
  fun _ => L.rel_pure _

theorem steps_throw (failure : StorageError) :
    L.Steps (throw failure : Step m α) (throw failure) :=
  fun _ => L.rel_pure _

theorem steps_bind {x : Step m α} {y : Step n α} {f : α -> Step m β} {g : α -> Step n β}
    (hx : L.Steps x y) (hf : forall a, L.Steps (f a) (g a)) :
    L.Steps (x >>= f) (y >>= g) := by
  intro bench
  rw [ExceptT.run_bind, ExceptT.run_bind, StateT.run_bind, StateT.run_bind]
  apply L.rel_bind (hx bench)
  intro result
  rcases result with ⟨result, after⟩
  cases result with
  | error failure => exact L.rel_pure _
  | ok a => exact hf a after

theorem steps_call {remote : Remote m α} {remote' : Remote n α}
    (h : L.Rel remote.run remote'.run) : L.Steps (Step.call remote) (Step.call remote') :=
  fun _ => L.rel_bind h fun _ => L.rel_pure _

theorem steps_effect {action : m α} {action' : n α} (h : L.Rel action action') :
    L.Steps (Step.effect action) (Step.effect action') :=
  fun _ => L.rel_bind (L.rel_bind h fun _ => L.rel_pure _) fun _ => L.rel_pure _

theorem steps_attempt {remote : Remote m α} {remote' : Remote n α}
    (h : L.Rel remote.run remote'.run) :
    L.Steps (Step.attempt remote) (Step.attempt remote') :=
  steps_effect h

theorem steps_get : L.Steps (get : Step m Bench) get :=
  fun _ => L.rel_bind (L.rel_pure _) fun _ => L.rel_pure _

theorem steps_modify (f : Bench -> Bench) :
    L.Steps (modify f : Step m PUnit) (modify f) :=
  fun _ => L.rel_bind (L.rel_pure _) fun _ => L.rel_pure _

theorem steps_location : L.Steps (Step.location : Step m Location) Step.location :=
  steps_bind steps_get fun _ => steps_pure _

theorem steps_setLocation (loc : Location) :
    L.Steps (Step.setLocation loc : Step m Unit) (Step.setLocation loc) :=
  steps_modify _

theorem steps_remembered {cache : Caches -> OrderedMap String α}
    {keep : OrderedMap String α -> Caches -> Caches} {system : String}
    {make : Step m α} {make' : Step n α} (h : L.Steps make make') :
    L.Steps (Step.remembered cache keep system make)
      (Step.remembered cache keep system make') := by
  apply steps_bind steps_get
  intro bench
  cases (cache bench.caches).get? system with
  | some value => exact steps_pure value
  | none => exact steps_bind h fun value => steps_bind (steps_modify _) fun _ => steps_pure value

/-!
## Surveys
-/

section Surveys

variable {surveyor : Surveyor m} {storage : Storage n}

theorem rel_foldlM {f : β -> α -> m β} {g : β -> α -> n β}
    (h : forall b a, L.Rel (f b a) (g b a)) (items : List α) (start : β) :
    L.Rel (items.foldlM f start) (items.foldlM g start) := by
  induction items generalizing start with
  | nil => exact L.rel_pure start
  | cons item rest ih =>
      rw [List.foldlM_cons, List.foldlM_cons]
      exact L.rel_bind (h start item) ih

theorem rel_visit {system : String}
    (h : forall path,
      L.Rel (surveyor.storage.list system path).run (storage.list system path).run)
    {explore : Option (List Entry -> m FileIndex)}
    {explore' : Option (List Entry -> n FileIndex)}
    (hexplore : Option.Rel (fun e e' => forall entries, L.Rel (e entries) (e' entries))
      explore explore')
    (index : FileIndex) (entry : Entry) :
    L.Rel (surveyor.visit system explore index entry)
      ((surveyor.over storage).visit system explore' index entry) := by
  unfold Surveyor.visit
  rw [Surveyor.over_engine]
  split
  · exact L.rel_pure _
  · split
    · exact L.rel_pure _
    · cases hexplore with
      | none => exact L.rel_pure _
      | some hinner =>
          apply L.rel_bind (h entry.path)
          intro listing
          cases listing with
          | error failure => exact L.rel_pure _
          | ok children => exact L.rel_bind (hinner children) fun _ => L.rel_pure _

theorem rel_indexListing {system : String}
    (h : forall path,
      L.Rel (surveyor.storage.list system path).run (storage.list system path).run)
    (depth : Nat) (entries : List Entry) :
    L.Rel (surveyor.indexListing system depth entries)
      ((surveyor.over storage).indexListing system depth entries) := by
  induction depth generalizing entries with
  | zero => exact rel_foldlM (rel_visit h .none) entries _
  | succ depth ih => exact rel_foldlM (rel_visit h (.some ih)) entries _

theorem rel_index {system : String}
    (h : forall path,
      L.Rel (surveyor.storage.list system path).run (storage.list system path).run)
    (root : String) :
    L.Rel (surveyor.index system root) ((surveyor.over storage).index system root) := by
  apply L.rel_bind (h root)
  intro listing
  cases listing with
  | error failure => exact L.rel_pure _
  | ok entries => exact rel_indexListing h surveyor.depth entries

theorem rel_build {target : IndexTarget}
    (h : forall path, L.Rel (surveyor.storage.list (target.system surveyor.engine) path).run
      (storage.list (target.system surveyor.engine) path).run) :
    L.Rel (surveyor.build target) ((surveyor.over storage).build target) := by
  cases target <;> exact rel_index h _

theorem steps_confirmSource (h : L.Storages surveyor.storage storage) (loc : Location)
    (owner found : String) :
    L.Steps (surveyor.confirmSource loc owner found)
      ((surveyor.over storage).confirmSource loc owner found) := by
  apply steps_bind (steps_attempt (h.stat owner (RemotePath.absolute found)))
  intro answer
  cases answer with
  | ok entry => exact steps_bind (steps_setLocation _) fun _ => steps_pure true
  | error failure =>
      cases failure with
      | notListable system path => exact steps_pure false
      | _ => exact steps_throw _

theorem steps_recoverSystem (h : L.Storages surveyor.storage storage)
    (provenance : Provenance) :
    L.Steps (surveyor.recoverSystem provenance)
      ((surveyor.over storage).recoverSystem provenance) := by
  apply steps_bind steps_location
  intro loc
  cases loc.originSystem with
  | some system => exact steps_pure false
  | none =>
      cases loc.originPath with
      | none => exact steps_pure false
      | some path =>
          cases provenance.project.owningSystem? with
          | none => exact steps_pure false
          | some owner =>
              apply steps_bind (steps_attempt (h.list owner path))
              intro answer
              cases answer with
              | ok listing =>
                  cases listing with
                  | nil => exact steps_pure false
                  | cons entry rest =>
                      exact steps_bind (steps_setLocation _) fun _ => steps_pure true
              | error failure =>
                  cases failure with
                  | notListable system path => exact steps_pure false
                  | _ => exact steps_throw _

/-- A surveyor whose work is related over two storages, as far as a pass needs any, with
two ways to build indices. -/
structure Surveyors (L : Lockstep m n) (surveyor : Surveyor m) (storage : Storage n)
    (build : IndexTarget -> m FileIndex := surveyor.build)
    (build' : IndexTarget -> n FileIndex := (surveyor.over storage).build) : Prop where
  builds : forall target, L.Rel (build target) (build' target)
  externalId : forall system,
    L.Rel (surveyor.storage.externalId system).run (storage.externalId system).run
  confirmSource : forall loc owner found,
    L.Steps (surveyor.confirmSource loc owner found)
      ((surveyor.over storage).confirmSource loc owner found)
  recoverSystem : forall provenance,
    L.Steps (surveyor.recoverSystem provenance)
      ((surveyor.over storage).recoverSystem provenance)

theorem Storages.surveyors (h : L.Storages surveyor.storage storage) :
    L.Surveyors surveyor storage where
  builds := fun _ => rel_build (h.list _)
  externalId := h.externalId
  confirmSource := steps_confirmSource h
  recoverSystem := steps_recoverSystem h

/-!
## Passes
-/

namespace Surveyors

variable {build : IndexTarget -> m FileIndex} {build' : IndexTarget -> n FileIndex}

theorem projectOf (h : L.Surveyors surveyor storage build build') (system : String) :
    L.Steps (surveyor.projectOf system) ((surveyor.over storage).projectOf system) := by
  unfold Surveyor.projectOf
  rw [Surveyor.over_engine]
  cases surveyor.engine.projectUuid? system with
  | none => exact steps_pure none
  | some uuid => exact steps_remembered (steps_call (h.externalId system))

theorem publishedCopy (h : L.Surveyors surveyor storage build build') (system : String) :
    L.Steps (surveyor.publishedCopy system build)
      ((surveyor.over storage).publishedCopy system build') := by
  unfold Surveyor.publishedCopy
  rw [Surveyor.over_engine]
  cases surveyor.engine.projectUuid? system with
  | none => exact steps_pure none
  | some uuid =>
      apply steps_bind (h.projectOf system)
      intro project
      cases project with
      | none => exact steps_pure none
      | some id =>
          exact steps_bind (steps_effect (h.builds _)) fun index => steps_pure (some index)

theorem judge (h : L.Surveyors surveyor storage build build') :
    L.Steps (surveyor.judge build) ((surveyor.over storage).judge build') := by
  apply steps_bind steps_location
  intro loc
  cases loc.currentSystem with
  | none => exact steps_pure _
  | some system =>
      show L.Steps (if surveyor.engine.isPublicSystem system then _ else _)
        (if surveyor.engine.isPublicSystem system then _ else _)
      split
      · exact steps_bind (steps_setLocation _) fun _ => steps_pure _
      · apply steps_bind (steps_remembered (h.publishedCopy system))
        intro index
        cases index.bind fun index => loc.currentPath.bind index.resolve? with
        | none => exact steps_bind (steps_setLocation _) fun _ => steps_pure _
        | some path => exact steps_bind (steps_setLocation _) fun _ => steps_pure _

theorem assignProject (h : L.Surveyors surveyor storage build build') :
    L.Steps surveyor.assignProject (surveyor.over storage).assignProject := by
  apply steps_bind steps_location
  intro loc
  rw [Surveyor.publishedProject?_over, Surveyor.owningSystem?_over]
  cases surveyor.publishedProject? loc with
  | some id => exact steps_setLocation _
  | none =>
      cases surveyor.owningSystem? loc with
      | none => exact steps_pure ()
      | some system =>
          apply steps_bind (h.projectOf system)
          intro project
          cases project with
          | none => exact steps_pure ()
          | some id => exact steps_setLocation _

theorem reconcile (h : L.Surveyors surveyor storage build build') :
    L.Steps (surveyor.reconcile build) ((surveyor.over storage).reconcile build') :=
  steps_bind h.judge fun verdict => steps_bind h.assignProject fun _ => steps_pure verdict

theorem recoverSource (h : L.Surveyors surveyor storage build build') (provenance : Provenance)
    (asset : Asset) :
    L.Steps (surveyor.recoverSource provenance asset build)
      ((surveyor.over storage).recoverSource provenance asset build') := by
  apply steps_bind steps_location
  intro loc
  cases Surveyor.missingSource? provenance asset loc with
  | none => exact steps_pure false
  | some source =>
      rcases source with ⟨name, owner⟩
      apply steps_bind (steps_remembered (steps_effect (h.builds (.owner owner))))
      intro index
      cases index.resolve? name with
      | none => exact steps_pure false
      | some found => exact h.confirmSource loc owner found

end Surveyors

theorem steps_fillCurrent :
    L.Steps (Surveyor.fillCurrent : Step m Bool) Surveyor.fillCurrent := by
  apply steps_bind steps_location
  intro loc
  cases Surveyor.completedCurrent? loc with
  | none => exact steps_pure false
  | some completed => exact steps_bind (steps_setLocation completed) fun _ => steps_pure true

namespace Surveyors

variable {build : IndexTarget -> m FileIndex} {build' : IndexTarget -> n FileIndex}

theorem repair (h : L.Surveyors surveyor storage build build') (provenance : Provenance)
    (asset : Asset) :
    L.Steps (surveyor.repair provenance asset build)
      ((surveyor.over storage).repair provenance asset build') :=
  steps_bind (h.recoverSource provenance asset) fun _ =>
    steps_bind (h.recoverSystem provenance) fun _ =>
      steps_bind steps_fillCurrent fun _ => steps_pure _

theorem pass (h : L.Surveyors surveyor storage build build') (provenance : Provenance)
    (item : Tracked) :
    L.Steps (surveyor.pass provenance item build)
      ((surveyor.over storage).pass provenance item build') := by
  cases item with
  | asset asset => exact steps_bind (h.repair provenance asset) fun _ => h.reconcile
  | tileServer server => exact h.reconcile

end Surveyors

theorem steps_judge (h : L.Storages surveyor.storage storage) :
    L.Steps surveyor.judge (surveyor.over storage).judge :=
  h.surveyors.judge

theorem steps_assignProject (h : L.Storages surveyor.storage storage) :
    L.Steps surveyor.assignProject (surveyor.over storage).assignProject :=
  h.surveyors.assignProject

theorem steps_repair (h : L.Storages surveyor.storage storage) (provenance : Provenance)
    (asset : Asset) :
    L.Steps (surveyor.repair provenance asset)
      ((surveyor.over storage).repair provenance asset) :=
  h.surveyors.repair provenance asset

theorem rel_treat (h : L.Storages surveyor.storage storage) (provenance : Provenance)
    (item : Tracked) (time : Instant) (caches : Caches) :
    L.Rel (surveyor.treat provenance item time caches)
      ((surveyor.over storage).treat provenance item time caches) :=
  h.surveyors.pass provenance item _

end Surveys

end Lockstep

/-!
## Remote storage in a world

A storage that only works on the state of remote storage, seen from the world
around it.
-/

variable {σ ω : Type}

/-- What an operation on the state of remote storage does, done in the world. -/
def View.lockstep (view : View σ ω) : Lockstep (StateM σ) (StateM ω) where
  Rel x y := forall s,
    y.run (view.outside s) = ((x.run s).1, view.outside (x.run s).2) ∧
      view.database (x.run s).2 = view.database s ∧ view.saved (x.run s).2 = view.saved s
  rel_pure _ _ := ⟨rfl, rfl, rfl⟩
  rel_bind := by
    intro α β x y f g hx hf s
    rcases hx s with ⟨hrun, hdatabase, hsaved⟩
    rcases hf (x.run s).1 (x.run s).2 with ⟨hrun', hdatabase', hsaved'⟩
    refine ⟨?_, hdatabase'.trans hdatabase, hsaved'.trans hsaved⟩
    rw [StateT.run_bind, hrun]
    exact hrun'

/-- A storage of the world that does what a remote storage does to its own state. -/
def Storage.Acts (storage : Storage (StateM σ)) (view : View σ ω)
    (remote : Storage (StateM ω)) : Prop :=
  view.lockstep.Storages storage remote

/-- A way to connect that only ever gives storages which act as one remote storage. -/
structure Connects (connect : String -> Attempt (StateM σ) (Storage (StateM σ)))
    (view : View σ ω) (remote : Storage (StateM ω)) : Prop where
  still : forall token, view.Still (connect token).run
  acts : forall token s storage, ((connect token).on s).1 = .ok storage ->
    storage.Acts view remote

/-!
## Fixed answers
-/

/-- Operations that give one value in every state. -/
def Lockstep.fixed (σ : Type) : Lockstep (StateM σ) Id where
  Rel x y := forall s, (x.run s).1 = y
  rel_pure _ _ := rfl
  rel_bind := by
    intro α β x y f g hx hf s
    show ((f (x.run s).1).run (x.run s).2).1 = g y
    rw [← hx s]
    exact hf (x.run s).1 (x.run s).2

/-- A storage whose answers depend on nothing but the arguments of a call. -/
def Storage.Follows (storage : Storage (StateM σ)) (answers : Storage Id) : Prop :=
  (Lockstep.fixed σ).Storages storage answers

end Whereabouts
