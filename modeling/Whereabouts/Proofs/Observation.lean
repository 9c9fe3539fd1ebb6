import Whereabouts.Proofs.CheckerLockstep
import Whereabouts.Proofs.PassPlan

/-!
# Observed checks

A check that is run with a journal of what it does: when it reads the clock, the calls of
remote storage, and the indices that it builds with the calls of each.  The journal makes
no difference to the check.
-/

namespace Whereabouts

variable {σ α β : Type}

/-- What a check is seen to do: it reads the clock, makes a call for its own sake, or builds
an index by some calls. -/
inductive CheckEvent where
  | time
  | call (exchange : Exchange)
  | build (target : IndexTarget) (calls : List Exchange)

namespace CheckEvent

def calls : CheckEvent -> List Exchange
  | time => []
  | call exchange => [exchange]
  | build _ calls => calls

def target? : CheckEvent -> Option IndexTarget
  | build target _ => some target
  | _ => none

def work? : CheckEvent -> Option RemoteWork
  | time => none
  | call exchange => some (.call exchange)
  | build target _ => some (.build target)

end CheckEvent

/-- A world with the events in it so far, the latest first. -/
structure Observed (σ : Type) where
  events : List CheckEvent
  inner : σ

namespace Observed

def unseen (x : StateM σ α) : StateM (Observed σ) α :=
  fun s =>
    let out := x.run s.inner
    (out.1, { s with inner := out.2 })

def seen (event : α -> CheckEvent) (x : StateM σ α) : StateM (Observed σ) α :=
  fun s =>
    let out := x.run s.inner
    (out.1, { events := event out.1 :: s.events, inner := out.2 })

/-- Building an index is one event, with all the calls that are made for it. -/
def build (surveyor : Surveyor (StateM (Observed σ))) (target : IndexTarget) :
    StateM (Observed σ) FileIndex :=
  fun s =>
    let out := (surveyor.build target).run { s with events := [] }
    let calls := out.2.events.reverse.flatMap CheckEvent.calls
    (out.1, { events := .build target calls :: s.events, inner := out.2.inner })

end Observed

def Storage.observed (storage : Storage (StateM σ)) : Storage (StateM (Observed σ)) where
  list := fun system path =>
    ExceptT.mk (Observed.seen (fun answer => .call (.list system path answer))
      (storage.list system path).run)
  stat := fun system path =>
    ExceptT.mk (Observed.seen (fun answer => .call (.stat system path answer))
      (storage.stat system path).run)
  externalId := fun system =>
    ExceptT.mk (Observed.seen (fun answer => .call (.externalId system answer))
      (storage.externalId system).run)

def Checker.observed (checker : Checker (StateM σ)) : Checker (StateM (Observed σ)) where
  vault := {
    load := ExceptT.mk (Observed.unseen checker.vault.load.run)
    save := fun db => ExceptT.mk (Observed.unseen (checker.vault.save db).run) }
  clock := {
    now := Observed.seen (fun _ => .time) checker.clock.now
    newProcessId := Observed.unseen checker.clock.newProcessId }
  trail := {
    append := fun event => ExceptT.mk (Observed.unseen (checker.trail.append event).run) }
  engine := checker.engine
  depth := checker.depth

def Observed.connect (connect : String -> Attempt (StateM σ) (Storage (StateM σ)))
    (token : String) : Attempt (StateM (Observed σ)) (Storage (StateM (Observed σ))) :=
  ExceptT.mk (Except.map Storage.observed <$> Observed.unseen (connect token).run)

/-!
## Checks one after the other
-/

/-- A check that is to be run, and what it is run with. -/
structure CheckRequest (σ : Type) where
  checker : Checker (StateM σ)
  projectId : Int64
  userId : Int64
  connect : String -> Attempt (StateM σ) (Storage (StateM σ))

namespace CheckRequest

def observe (request : CheckRequest σ) (known : OrderedMap String (Option String)) :
    StateM σ ((Except Fault CheckOutcome × List CheckEvent) ×
      OrderedMap String (Option String)) :=
  fun s =>
    let out := (request.checker.observed.conduct request.projectId request.userId known
      (Observed.connect request.connect)
      (fun storage => Observed.build (request.checker.observed.surveyor storage))).run
        { events := [], inner := s }
    (((out.1.1, out.2.events.reverse), out.1.2), out.2.inner)

/-- Runs checks one after the other.  Each starts with the external projects that the
ones before it came to know. -/
def conductAll : List (CheckRequest σ) -> OrderedMap String (Option String) ->
    StateM σ (List (Except Fault CheckOutcome) × OrderedMap String (Option String))
  | [], known => return ([], known)
  | request :: rest, known => do
      let (result, learned) <-
        request.checker.conduct request.projectId request.userId known request.connect
      let (results, last) <- conductAll rest learned
      return (result :: results, last)

def observeAll : List (CheckRequest σ) -> OrderedMap String (Option String) ->
    StateM σ (List (Except Fault CheckOutcome × List CheckEvent) ×
      OrderedMap String (Option String))
  | [], known => return ([], known)
  | request :: rest, known => do
      let (result, learned) <- request.observe known
      let (results, last) <- observeAll rest learned
      return (result :: results, last)

end CheckRequest

/-!
## Observed operations
-/

namespace Observed

/-- Operations of which one does what the other does, with some events. -/
def lockstep (P : CheckEvent -> Prop) : Lockstep (StateM (Observed σ)) (StateM σ) where
  Rel x y := forall s, y.run s.inner = ((x.run s).1, (x.run s).2.inner) ∧
    exists events, (x.run s).2.events = events.reverse ++ s.events ∧
      forall event, event ∈ events -> P event
  rel_pure _ _ := ⟨rfl, [], rfl, fun _ h => nomatch h⟩
  rel_bind := by
    intro α β x y f g hx hf s
    rcases hx s with ⟨hrun, early, hearly, hall⟩
    rcases hf (x.run s).1 (x.run s).2 with ⟨hrun', late, hlate, hall'⟩
    refine ⟨?_, early ++ late, ?_, ?_⟩
    · rw [StateT.run_bind, hrun]
      exact hrun'
    · rw [List.reverse_append, List.append_assoc, <- hearly]
      exact hlate
    · intro event hevent
      rcases List.mem_append.mp hevent with hevent | hevent
      · exact hall event hevent
      · exact hall' event hevent

theorem rel_unseen (P : CheckEvent -> Prop) (x : StateM σ α) :
    (lockstep P).Rel (unseen x) x :=
  fun _ => ⟨rfl, [], rfl, fun _ h => nomatch h⟩

theorem rel_seen {P : CheckEvent -> Prop} (event : α -> CheckEvent) (x : StateM σ α)
    (h : forall a, P (event a)) : (lockstep P).Rel (seen event x) x := by
  refine fun s => ⟨rfl, [event (x.run s.inner).1], rfl, ?_⟩
  intro other hother
  rw [List.mem_singleton.mp hother]
  exact h _

/-- Besides its passes, a check is only seen to read the clock. -/
theorem checkers (checker : Checker (StateM σ)) :
    (lockstep (fun event => event = .time)).Checkers checker.observed checker where
  load := rel_unseen _ _
  save := fun _ => rel_unseen _ _
  now := rel_seen (fun _ => .time) _ fun _ => rfl
  append := fun _ => rel_unseen _ _
  engine := rfl
  depth := rfl

variable {surveyor : Surveyor (StateM (Observed σ))} {storage : Storage (StateM σ)}

/-- An index is built as it is unseen, by listings of one system. -/
theorem run_build (hstorage : surveyor.storage = storage.observed) (target : IndexTarget)
    (s : Observed σ) :
    ((surveyor.over storage).build target).run s.inner =
        (((build surveyor target).run s).1, ((build surveyor target).run s).2.inner) ∧
      exists calls, ((build surveyor target).run s).2.events = .build target calls :: s.events ∧
        forall call, call ∈ calls -> exists path answer,
          call = .list (target.system surveyor.engine) path answer := by
  have hlist : forall path, (lockstep fun event => exists path answer,
      event = .call (.list (target.system surveyor.engine) path answer)).Rel
        (surveyor.storage.list (target.system surveyor.engine) path).run
        (storage.list (target.system surveyor.engine) path).run := by
    intro path
    rw [hstorage]
    exact rel_seen (fun answer => .call (.list _ path answer)) _
      fun answer => ⟨path, answer, rfl⟩
  rcases Lockstep.rel_build hlist { s with events := [] } with ⟨hrun, events, hevents, hall⟩
  refine ⟨hrun, _, rfl, ?_⟩
  intro call hcall
  rw [hevents, List.append_nil, List.reverse_reverse] at hcall
  rcases List.mem_flatMap.mp hcall with ⟨event, hevent, hcall⟩
  rcases hall event hevent with ⟨path, answer, rfl⟩
  exact ⟨path, answer, List.mem_singleton.mp hcall⟩

theorem run_treat (checker : Checker (StateM σ)) (storage : Storage (StateM σ))
    (provenance : Provenance) (item : Tracked) (time : Instant) (caches : Caches)
    (s : Observed σ) :
    let out := ((checker.observed.surveyor storage.observed).treat provenance item time caches
      (build (checker.observed.surveyor storage.observed))).run s
    ((checker.surveyor storage).treat provenance item time caches).run s.inner =
      (out.1, out.2.inner) := by
  have hstorages : (Lockstep.along Observed.inner).Storages storage.observed storage :=
    ⟨fun _ _ _ => rfl, fun _ _ _ => rfl, fun _ _ => rfl⟩
  have hsurveyors : (Lockstep.along Observed.inner).Surveyors
      (checker.observed.surveyor storage.observed) storage
      (build (checker.observed.surveyor storage.observed)) := {
    hstorages.surveyors with
    builds := fun target s => (run_build rfl target s).1 }
  exact hsurveyors.pass provenance item _ s

end Observed
end Whereabouts
