import Whereabouts.Check.Sweep

/-!
# Surroundings of a check

A check runs in a world of which little has to be known: what database its vault
holds, which databases were ever saved there, and the state of remote storage.
This module says when a world leaves the database to the check alone, and how
invariants of the database are carried through the operations of a check.
-/

namespace Whereabouts

variable {σ ω α β : Type}

/-- What can be told of the state of the world. -/
structure View (σ ω : Type) where
  /-- The database that the vault holds. -/
  database : σ -> Database
  /-- Every database that was ever saved, the latest first. -/
  saved : σ -> List Database
  /-- The state of remote storage. -/
  outside : σ -> ω

namespace View

variable (view : View σ ω)

/-- Two states of the world between which nothing happened that can be told. -/
structure Same (s after : σ) : Prop where
  database : view.database after = view.database s
  saved : view.saved after = view.saved s
  outside : view.outside after = view.outside s

/-- An operation after which nothing can be told to have happened. -/
def Still (x : StateM σ α) : Prop :=
  forall s, view.Same s (x.run s).2

/-- Between two states every database that was saved has a property, and so has the
one that the vault holds in the end. -/
structure Keeps (Q : Database -> Prop) (s after : σ) : Prop where
  database : Q (view.database after)
  saved : exists new, view.saved after = new ++ view.saved s ∧ forall db, db ∈ new -> Q db

/-- An operation that leaves remote storage alone and keeps a property of the
database. -/
def Preserves (Q : Database -> Prop) (x : StateM σ α) : Prop :=
  forall s, Q (view.database s) ->
    view.Keeps Q s (x.run s).2 ∧ view.outside (x.run s).2 = view.outside s

variable {view}

theorem Same.refl (s : σ) : view.Same s s :=
  ⟨rfl, rfl, rfl⟩

theorem Same.trans {s t u : σ} (hst : view.Same s t) (htu : view.Same t u) :
    view.Same s u :=
  ⟨htu.database.trans hst.database, htu.saved.trans hst.saved,
    htu.outside.trans hst.outside⟩

theorem run_bind_of_eq {x : StateM σ α} {f : α -> StateM σ β} {s after : σ} {a : α}
    (h : x.run s = (a, after)) : (x >>= f).run s = (f a).run after := by
  rw [StateT.run_bind, h]
  rfl

theorem Keeps.of_same {Q : Database -> Prop} {s after : σ} (h : view.Same s after)
    (hs : Q (view.database s)) : view.Keeps Q s after where
  database := by
    rw [h.database]
    exact hs
  saved := ⟨[], h.saved, fun _ hdb => nomatch hdb⟩

theorem Keeps.trans {Q : Database -> Prop} {s t u : σ} (hst : view.Keeps Q s t)
    (htu : view.Keeps Q t u) : view.Keeps Q s u where
  database := htu.database
  saved := by
    rcases hst.saved with ⟨early, hearly, hQearly⟩
    rcases htu.saved with ⟨late, hlate, hQlate⟩
    refine ⟨late ++ early, ?_, ?_⟩
    · rw [hlate, hearly, List.append_assoc]
    · intro db hdb
      rcases List.mem_append.mp hdb with hdb | hdb
      · exact hQlate db hdb
      · exact hQearly db hdb

theorem Keeps.mono {P Q : Database -> Prop} {s after : σ} (h : view.Keeps P s after)
    (hPQ : forall db, P db -> Q db) : view.Keeps Q s after where
  database := hPQ _ h.database
  saved := by
    rcases h.saved with ⟨new, hnew, hP⟩
    exact ⟨new, hnew, fun db hdb => hPQ db (hP db hdb)⟩

/-!
## Operations in sequence
-/

theorem still_pure (a : α) : view.Still (pure a) :=
  fun s => Same.refl s

theorem Still.preserves {x : StateM σ α} (h : view.Still x) (Q : Database -> Prop) :
    view.Preserves Q x :=
  fun s hs => ⟨Keeps.of_same (h s) hs, (h s).outside⟩

theorem preserves_pure (Q : Database -> Prop) (a : α) :
    view.Preserves Q (pure a : StateM σ α) :=
  (still_pure a).preserves Q

theorem preserves_bind {Q : Database -> Prop} {x : StateM σ α} {f : α -> StateM σ β}
    (hx : view.Preserves Q x) (hf : forall a, view.Preserves Q (f a)) :
    view.Preserves Q (x >>= f) := by
  intro s hs
  rcases hx s hs with ⟨hkeeps, houtside⟩
  rcases hf (x.run s).1 (x.run s).2 hkeeps.database with ⟨hkeeps', houtside'⟩
  exact ⟨hkeeps.trans hkeeps', houtside'.trans houtside⟩

end View

/-!
## Attempts
-/

namespace Attempt

def on (x : Attempt (StateM σ) α) (s : σ) : Except Fault α × σ :=
  x.run.run s

theorem on_bind_of_ok {x : Attempt (StateM σ) α} {f : α -> Attempt (StateM σ) β}
    {s after : σ} {a : α} (h : x.on s = (.ok a, after)) :
    (x >>= f).on s = (f a).on after := by
  unfold on at *
  rw [ExceptT.run_bind, StateT.run_bind, h]
  rfl

theorem on_bind_of_error {x : Attempt (StateM σ) α} {f : α -> Attempt (StateM σ) β}
    {s after : σ} {fault : Fault} (h : x.on s = (.error fault, after)) :
    (x >>= f).on s = (.error fault, after) := by
  unfold on at *
  rw [ExceptT.run_bind, StateT.run_bind, h]
  rfl

theorem of_on_bind_ok {x : Attempt (StateM σ) α} {f : α -> Attempt (StateM σ) β}
    {s after : σ} {b : β} (h : (x >>= f).on s = (.ok b, after)) :
    exists a between, x.on s = (.ok a, between) ∧ (f a).on between = (.ok b, after) := by
  rcases hx : x.on s with ⟨result, between⟩
  cases result with
  | error fault =>
      rw [on_bind_of_error hx] at h
      cases h
  | ok a =>
      rw [on_bind_of_ok hx] at h
      exact ⟨a, between, rfl, h⟩

theorem on_effect (action : StateM σ α) (s : σ) :
    (effect action).on s = (.ok (action.run s).1, (action.run s).2) := rfl

theorem on_outcome (x : Attempt (StateM σ) α) (s : σ) :
    x.outcome.on s = (.ok (x.on s).1, (x.on s).2) := rfl

theorem on_within_of_ok {x : Attempt (StateM σ) α} (context : String) {s after : σ} {a : α}
    (h : x.on s = (.ok a, after)) : (x.within context).on s = (.ok a, after) := by
  unfold on within at *
  exact View.run_bind_of_eq h

theorem on_within_of_error {x : Attempt (StateM σ) α} (context : String) {s after : σ}
    {fault : Fault} (h : x.on s = (.error fault, after)) :
    (x.within context).on s = (.error (.within context fault), after) := by
  unfold on within at *
  exact View.run_bind_of_eq h

end Attempt

namespace View

variable {view : View σ ω} {Q : Database -> Prop}

theorem preserves_attempt_pure (a : α) :
    view.Preserves Q (pure a : Attempt (StateM σ) α).run :=
  preserves_pure Q (Except.ok a : Except Fault α)

theorem preserves_attempt_bind {x : Attempt (StateM σ) α} {f : α -> Attempt (StateM σ) β}
    (hx : view.Preserves Q x.run) (hf : forall a, view.Preserves Q (f a).run) :
    view.Preserves Q (x >>= f).run := by
  rw [ExceptT.run_bind]
  apply preserves_bind hx
  intro result
  cases result with
  | error fault => exact preserves_pure Q _
  | ok a => exact hf a

theorem Still.of_on {x : Attempt (StateM σ) α} (h : view.Still x.run) {s after : σ}
    {result : Except Fault α} (hon : x.on s = (result, after)) : view.Same s after := by
  have hsame := h s
  change view.Same s (x.on s).2 at hsame
  rw [hon] at hsame
  exact hsame

theorem still_attempt_bind {x : Attempt (StateM σ) α} {f : α -> Attempt (StateM σ) β}
    (hx : view.Still x.run) (hf : forall a, view.Still (f a).run) :
    view.Still (x >>= f).run := by
  intro s
  change view.Same s ((x >>= f).on s).2
  rcases hon : x.on s with ⟨result, between⟩
  have hsame := hx.of_on hon
  cases result with
  | error fault =>
      rw [Attempt.on_bind_of_error hon]
      exact hsame
  | ok a =>
      rw [Attempt.on_bind_of_ok hon]
      exact hsame.trans (hf a between)

theorem bind_of_preserves {x : Attempt (StateM σ) α} {f : α -> Attempt (StateM σ) β}
    {s between : σ} {a : α} (hx : x.on s = (.ok a, between)) (hf : view.Preserves Q (f a).run)
    (hbetween : Q (view.database between)) :
    exists result after, (x >>= f).on s = (result, after) ∧ view.Keeps Q between after ∧
      view.outside after = view.outside between := by
  rcases hf between hbetween with ⟨hkeeps, houtside⟩
  exact ⟨_, _, Attempt.on_bind_of_ok hx, hkeeps, houtside⟩

theorem preserves_effect {action : StateM σ α} (h : view.Preserves Q action) :
    view.Preserves Q (Attempt.effect action).run :=
  h

theorem preserves_outcome {x : Attempt (StateM σ) α} (h : view.Preserves Q x.run) :
    view.Preserves Q x.outcome.run :=
  h

theorem preserves_within {x : Attempt (StateM σ) α} (context : String)
    (h : view.Preserves Q x.run) : view.Preserves Q (x.within context).run := by
  apply preserves_bind h
  intro result
  cases result with
  | error fault => exact preserves_pure Q _
  | ok a => exact preserves_pure Q _

end View

/-!
## Vaults
-/

namespace Vault

/-- A vault holds the database of the view, and nothing but a successful save
changes it. -/
structure Holds (vault : Vault (StateM σ)) (view : View σ ω) : Prop where
  load_still : view.Still vault.load.run
  load_eq : forall s db, (vault.load.on s).1 = .ok db -> db = view.database s
  save_ok : forall db s, ((vault.save db).on s).1 = .ok () ->
    view.database ((vault.save db).on s).2 = db ∧
      view.saved ((vault.save db).on s).2 = db :: view.saved s ∧
      view.outside ((vault.save db).on s).2 = view.outside s
  save_error : forall db s fault, ((vault.save db).on s).1 = .error fault ->
    view.Same s ((vault.save db).on s).2

/-- A fault with which reading a vault may fail. -/
def Unread (vault : Vault (StateM σ)) (fault : Fault) : Prop :=
  exists s, (vault.load.on s).1 = .error fault

/-- A vault whose database can be read at any time. -/
def Readable (vault : Vault (StateM σ)) : Prop :=
  forall fault, ¬ vault.Unread fault

variable {view : View σ ω} {vault : Vault (StateM σ)}

theorem snapshot_cases (h : vault.Holds view) (s : σ) :
    exists result after, vault.snapshot.on s = (result, after) ∧ view.Same s after ∧
      ((exists fault, vault.Unread fault ∧ result = .error fault) ∨
        result = .ok (view.database s)) := by
  have hload := h.load_eq s
  unfold snapshot
  rcases hon : vault.load.on s with ⟨result, after⟩
  have hstill := h.load_still.of_on hon
  rw [hon] at hload
  refine ⟨result, after, rfl, hstill, ?_⟩
  cases result with
  | error fault => exact Or.inl ⟨fault, ⟨s, congrArg Prod.fst hon⟩, rfl⟩
  | ok db => exact Or.inr (congrArg Except.ok (hload db rfl))

/-- A transaction changes the database as it should, or it changes nothing. -/
theorem transaction_cases (h : vault.Holds view)
    (change : Database -> Except Fault (α × Database)) (s : σ) :
    (exists fault, ((vault.transaction change).on s).1 = .error fault ∧
      view.Same s ((vault.transaction change).on s).2) ∨
    (exists a after, ((vault.transaction change).on s).1 = .ok a ∧
      change (view.database s) = .ok (a, after) ∧
      view.database ((vault.transaction change).on s).2 = after ∧
      view.saved ((vault.transaction change).on s).2 = after :: view.saved s ∧
      view.outside ((vault.transaction change).on s).2 = view.outside s) := by
  have hload := h.load_eq s
  unfold transaction
  rcases hon : vault.load.on s with ⟨result, loaded⟩
  have hstill := h.load_still.of_on hon
  rw [hon] at hload
  cases result with
  | error fault =>
      rw [Attempt.on_bind_of_error hon]
      exact Or.inl ⟨fault, rfl, hstill⟩
  | ok db =>
      have hdb : db = view.database s := hload db rfl
      rw [Attempt.on_bind_of_ok hon, hdb]
      cases hchange : change (view.database s) with
      | error fault => exact Or.inl ⟨fault, rfl, hstill⟩
      | ok changed =>
          rcases changed with ⟨a, after⟩
          have hok := h.save_ok after loaded
          have herror := h.save_error after loaded
          rcases hsave : (vault.save after).on loaded with ⟨result, saved⟩
          rw [hsave] at hok herror
          cases result with
          | error fault =>
              simp only [Attempt.on_bind_of_error hsave]
              exact Or.inl ⟨fault, rfl, hstill.trans (herror fault rfl)⟩
          | ok _ =>
              rcases hok rfl with ⟨hdatabase, hsaved, houtside⟩
              simp only [Attempt.on_bind_of_ok hsave]
              refine Or.inr ⟨a, after, rfl, rfl, hdatabase, ?_, ?_⟩
              · exact hsaved.trans (congrArg _ hstill.saved)
              · exact houtside.trans hstill.outside

theorem of_transaction_ok (h : vault.Holds view)
    {change : Database -> Except Fault (α × Database)} {s after : σ} {a : α}
    (hok : (vault.transaction change).on s = (.ok a, after)) :
    change (view.database s) = .ok (a, view.database after) ∧
      view.saved after = view.database after :: view.saved s ∧
      view.outside after = view.outside s := by
  have hcases := transaction_cases h change s
  rw [hok] at hcases
  rcases hcases with ⟨_, hresult, _⟩ | ⟨b, db, hresult, hchange, hdatabase, hsaved, houtside⟩
  · cases hresult
  · cases hresult
    subst hdatabase
    exact ⟨hchange, hsaved, houtside⟩

theorem preserves_transaction (h : vault.Holds view) {Q : Database -> Prop}
    {change : Database -> Except Fault (α × Database)}
    (hQ : forall db a after, Q db -> change db = .ok (a, after) -> Q after) :
    view.Preserves Q (vault.transaction change).run := by
  intro s hs
  change view.Keeps Q s ((vault.transaction change).on s).2 ∧
    view.outside ((vault.transaction change).on s).2 = _
  rcases transaction_cases h change s with ⟨_, _, hsame⟩ |
    ⟨a, after, _, hchange, hdatabase, hsaved, houtside⟩
  · exact ⟨View.Keeps.of_same hsame hs, hsame.outside⟩
  · have hafter : Q after := hQ _ a after hs hchange
    refine ⟨⟨?_, [after], hsaved, ?_⟩, houtside⟩
    · rw [hdatabase]
      exact hafter
    · intro db hdb
      rw [List.mem_singleton.mp hdb]
      exact hafter

end Vault

/-!
## Checkers
-/

/-- A checker whose vault is the only way to the database, and whose clock and trail
are out of remote storage's reach. -/
structure Checker.Alone (checker : Checker (StateM σ)) (view : View σ ω) : Prop where
  vault : checker.vault.Holds view
  now : view.Still checker.clock.now
  newProcessId : view.Still checker.clock.newProcessId
  trail : forall event, view.Still (checker.trail.append event).run

/-!
## Operations that leave something alone
-/

variable {γ ε : Type}

/-- An operation that leaves alone what is told of the world. -/
def Spares (told : σ -> γ) (x : StateM σ α) : Prop :=
  forall s, told (x.run s).2 = told s

namespace Spares

variable {told : σ -> γ}

theorem pure (a : α) : Spares told (Pure.pure a : StateM σ α) :=
  fun _ => rfl

theorem bind {x : StateM σ α} {f : α -> StateM σ β} (hx : Spares told x)
    (hf : forall a, Spares told (f a)) : Spares told (x >>= f) := by
  intro s
  rw [StateT.run_bind]
  exact (hf (x.run s).1 (x.run s).2).trans (hx s)

theorem except_bind {x : ExceptT ε (StateM σ) α} {f : α -> ExceptT ε (StateM σ) β}
    (hx : Spares told x.run) (hf : forall a, Spares told (f a).run) :
    Spares told (x >>= f).run := by
  rw [ExceptT.run_bind]
  apply bind hx
  intro result
  cases result with
  | error e => exact pure _
  | ok a => exact hf a

theorem lift {x : StateM σ α} (hx : Spares told x) :
    Spares told (ExceptT.lift x : ExceptT ε (StateM σ) α).run :=
  hx

theorem within {x : Attempt (StateM σ) α} (context : String) (hx : Spares told x.run) :
    Spares told (x.within context).run := by
  apply bind hx
  intro result
  cases result with
  | error fault => exact pure _
  | ok a => exact pure _

theorem ofFiling {x : Filing (StateM σ) α} (hx : Spares told x.run) :
    Spares told (Attempt.ofFiling x).run := by
  apply bind hx
  intro result
  cases result with
  | error failure => exact pure _
  | ok a => exact pure _

theorem of_on {x : Attempt (StateM σ) α} (hx : Spares told x.run) {s after : σ}
    {result : Except Fault α} (hon : x.on s = (result, after)) : told after = told s := by
  have hspared := hx s
  change told (x.on s).2 = told s at hspared
  rw [hon] at hspared
  exact hspared

end Spares

end Whereabouts
