import Whereabouts.Proofs.Lockstep

/-!
# Histories

The databases that are saved while an operation runs, one after the other.  An
operation follows a relation when each of them is one step of it from the one before,
and operations in sequence follow what each of them follows.
-/

namespace Whereabouts

/-- Databases from a first one to a last one, the latest first, each one step after the
one before it. -/
inductive Course (Step : Database -> Database -> Prop) (first : Database) :
    List Database -> Database -> Prop
  | nil : Course Step first [] first
  | snoc {before last : Database} {new : List Database}
      (earlier : Course Step first new before) (step : Step before last) :
      Course Step first (last :: new) last

namespace Course

variable {Step Step' : Database -> Database -> Prop} {a b c : Database}
  {early late new : List Database}

theorem append (h : Course Step a early b) (h' : Course Step b late c) :
    Course Step a (late ++ early) c := by
  induction h' with
  | nil => exact h
  | snoc _ step ih => exact .snoc ih step

/-- What every step keeps holds of every database that is come to, and may be used to
say more of each step. -/
theorem keeps {Q : Database -> Prop} (h : Course Step a new b) (ha : Q a)
    (hstep : forall x y, Q x -> Step x y -> Q y ∧ Step' x y) :
    Q b ∧ (forall db, db ∈ new -> Q db) ∧ Course Step' a new b := by
  induction h with
  | nil => exact ⟨ha, (fun _ hdb => nomatch hdb), .nil⟩
  | snoc _ step ih =>
      rcases ih with ⟨hbefore, hearlier, hcourse⟩
      rcases hstep _ _ hbefore step with ⟨hlast, hstep'⟩
      refine ⟨hlast, ?_, .snoc hcourse hstep'⟩
      intro db hdb
      rcases List.mem_cons.mp hdb with hdb | hdb
      · rw [hdb]
        exact hlast
      · exact hearlier db hdb

theorem mono (h : Course Step a new b) (hstep : forall x y, Step x y -> Step' x y) :
    Course Step' a new b := by
  induction h with
  | nil => exact .nil
  | snoc _ step ih => exact .snoc ih (hstep _ _ step)

theorem arrives (h : Course Step a new b) {db : Database} (hdb : db ∈ new) :
    exists before, Step before db := by
  induction h with
  | nil => cases hdb
  | snoc _ step ih =>
      rcases List.mem_cons.mp hdb with hdb | hdb
      · rw [hdb]
        exact ⟨_, step⟩
      · exact ih hdb

theorem closed {R : Database -> Database -> Prop} (h : Course Step a new b) (ha : R a a)
    (hstep : forall x y, R a x -> Step x y -> R a y) : R a b := by
  induction h with
  | nil => exact ha
  | snoc _ step ih => exact hstep _ _ ih step

theorem pairwise (h : Course Step a new b)
    (htrans : forall x y z, Step x y -> Step y z -> Step x z) :
    (new ++ [a]).Pairwise (fun later earlier => Step earlier later) ∧
      forall db, db ∈ new ++ [a] -> db = b ∨ Step db b := by
  induction h with
  | nil => exact ⟨List.pairwise_singleton _ _, fun db hdb => Or.inl (List.mem_singleton.mp hdb)⟩
  | @snoc before last new _ step ih =>
      rcases ih with ⟨hpairs, hlast⟩
      have hbefore : forall db, db ∈ new ++ [a] -> Step db last := by
        intro db hdb
        rcases hlast db hdb with hsame | hearlier
        · rw [hsame]
          exact step
        · exact htrans db before last hearlier step
      refine ⟨List.pairwise_cons.mpr ⟨hbefore, hpairs⟩, ?_⟩
      intro db hdb
      rcases List.mem_cons.mp hdb with hdb | hdb
      · exact Or.inl hdb
      · exact Or.inr (hbefore db hdb)

theorem and (h : Course Step a new b) (h' : Course Step' a new c) :
    c = b ∧ Course (fun x y => Step x y ∧ Step' x y) a new b := by
  induction h generalizing c with
  | nil =>
      cases h'
      exact ⟨rfl, .nil⟩
  | snoc _ step ih =>
      cases h' with
      | snoc earlier' step' =>
          rcases ih earlier' with ⟨rfl, hearlier⟩
          exact ⟨rfl, .snoc hearlier ⟨step, step'⟩⟩

end Course

variable {σ ω α β : Type}

namespace View

/-- Between two states the databases that were saved lead by steps of a relation from the
one that the vault held to the one that it holds. -/
def Follows (view : View σ ω) (Step : Database -> Database -> Prop) (s after : σ) : Prop :=
  exists new, view.saved after = new ++ view.saved s ∧
    Course Step (view.database s) new (view.database after)

/-- An operation that saves nothing but by steps of a relation. -/
def SavesBy (view : View σ ω) (Step : Database -> Database -> Prop) (x : StateM σ α) : Prop :=
  forall s, view.Follows Step s (x.run s).2

variable {view : View σ ω} {Step Step' : Database -> Database -> Prop}

theorem Follows.of_unsaved {s after : σ} (hdatabase : view.database after = view.database s)
    (hsaved : view.saved after = view.saved s) : view.Follows Step s after := by
  refine ⟨[], hsaved, ?_⟩
  rw [hdatabase]
  exact .nil

theorem Follows.of_same {s after : σ} (h : view.Same s after) : view.Follows Step s after :=
  .of_unsaved h.database h.saved

theorem Follows.of_step {s after : σ} (h : Step (view.database s) (view.database after))
    (hsaved : view.saved after = view.database after :: view.saved s) :
    view.Follows Step s after :=
  ⟨[_], hsaved, .snoc .nil h⟩

theorem Follows.trans {s t u : σ} (hst : view.Follows Step s t) (htu : view.Follows Step t u) :
    view.Follows Step s u := by
  rcases hst with ⟨early, hearly, hcourse⟩
  rcases htu with ⟨late, hlate, hcourse'⟩
  refine ⟨late ++ early, ?_, hcourse.append hcourse'⟩
  rw [hlate, hearly, List.append_assoc]

theorem Follows.closed {R : Database -> Database -> Prop} {s after : σ}
    (h : view.Follows Step s after) (hs : R (view.database s) (view.database s))
    (hstep : forall x y, R (view.database s) x -> Step x y -> R (view.database s) y) :
    R (view.database s) (view.database after) := by
  rcases h with ⟨new, _, hcourse⟩
  exact hcourse.closed hs hstep

theorem Follows.and {s after : σ} (h : view.Follows Step s after)
    (h' : view.Follows Step' s after) :
    view.Follows (fun x y => Step x y ∧ Step' x y) s after := by
  rcases h with ⟨new, hnew, hcourse⟩
  rcases h' with ⟨new', hnew', hcourse'⟩
  have hsame : new' = new := List.append_cancel_right (hnew'.symm.trans hnew)
  rw [hsame] at hcourse'
  exact ⟨new, hnew, (hcourse.and hcourse').2⟩

theorem Follows.keeps {Q : Database -> Prop} {s after : σ} (h : view.Follows Step s after)
    (hs : Q (view.database s)) (hstep : forall x y, Q x -> Step x y -> Q y ∧ Step' x y) :
    view.Keeps Q s after ∧ view.Follows Step' s after := by
  rcases h with ⟨new, hnew, hcourse⟩
  rcases hcourse.keeps hs hstep with ⟨hlast, hall, hcourse'⟩
  exact ⟨⟨hlast, new, hnew, hall⟩, new, hnew, hcourse'⟩

theorem Follows.mono {s after : σ} (h : view.Follows Step s after)
    (hstep : forall x y, Step x y -> Step' x y) : view.Follows Step' s after := by
  rcases h with ⟨new, hnew, hcourse⟩
  exact ⟨new, hnew, hcourse.mono hstep⟩

/-!
## Operations in sequence
-/

theorem Still.savesBy {x : StateM σ α} (h : view.Still x) : view.SavesBy Step x :=
  fun s => .of_same (h s)

theorem savesBy_pure (a : α) : view.SavesBy Step (pure a : StateM σ α) :=
  (still_pure a).savesBy

theorem savesBy_bind {x : StateM σ α} {f : α -> StateM σ β} (hx : view.SavesBy Step x)
    (hf : forall a, view.SavesBy Step (f a)) : view.SavesBy Step (x >>= f) :=
  fun s => (hx s).trans (hf (x.run s).1 (x.run s).2)

theorem savesBy_attempt_pure (a : α) :
    view.SavesBy Step (pure a : Attempt (StateM σ) α).run :=
  savesBy_pure (Except.ok a : Except Fault α)

theorem savesBy_attempt_bind {x : Attempt (StateM σ) α} {f : α -> Attempt (StateM σ) β}
    (hx : view.SavesBy Step x.run) (hf : forall a, view.SavesBy Step (f a).run) :
    view.SavesBy Step (x >>= f).run := by
  rw [ExceptT.run_bind]
  apply savesBy_bind hx
  intro result
  cases result with
  | error fault => exact savesBy_pure _
  | ok a => exact hf a

theorem follows_attempt_bind {x : Attempt (StateM σ) α} {f : α -> Attempt (StateM σ) β} {s : σ}
    (hx : view.Follows Step s (x.on s).2)
    (hf : forall a between, x.on s = (.ok a, between) ->
      view.Follows Step between ((f a).on between).2) :
    view.Follows Step s ((x >>= f).on s).2 := by
  rcases hon : x.on s with ⟨result, between⟩
  rw [hon] at hx
  cases result with
  | error fault =>
      rw [Attempt.on_bind_of_error hon]
      exact hx
  | ok a =>
      rw [Attempt.on_bind_of_ok hon]
      exact hx.trans (hf a between hon)

theorem savesBy_effect {action : StateM σ α} (h : view.SavesBy Step action) :
    view.SavesBy Step (Attempt.effect action).run :=
  h

theorem savesBy_outcome {x : Attempt (StateM σ) α} (h : view.SavesBy Step x.run) :
    view.SavesBy Step x.outcome.run :=
  h

theorem savesBy_within {x : Attempt (StateM σ) α} (context : String)
    (h : view.SavesBy Step x.run) : view.SavesBy Step (x.within context).run := by
  apply savesBy_bind h
  intro result
  cases result with
  | error fault => exact savesBy_pure _
  | ok a => exact savesBy_pure _

theorem savesBy_transaction {vault : Vault (StateM σ)} (h : vault.Holds view)
    {change : Database -> Except Fault (α × Database)}
    (hchange : forall db a after, change db = .ok (a, after) -> Step db after) :
    view.SavesBy Step (vault.transaction change).run := by
  intro s
  rcases Vault.transaction_cases h change s with ⟨_, _, hsame⟩ |
    ⟨a, after, _, hafter, hdatabase, hsaved, _⟩
  · exact .of_same hsame
  · subst hdatabase
    exact .of_step (hchange _ a _ hafter) hsaved

/-!
## Remote storage

Whatever remote storage does to its own state, the database is left alone.
-/

/-- Operations that leave the database alone, side by side with themselves. -/
def quiet (view : View σ ω) : Lockstep (StateM σ) (StateM σ) where
  Rel x _ := forall s,
    view.database (x.run s).2 = view.database s ∧ view.saved (x.run s).2 = view.saved s
  rel_pure _ _ := ⟨rfl, rfl⟩
  rel_bind := by
    intro α β x y f g hx hf s
    rcases hx s with ⟨hdatabase, hsaved⟩
    rcases hf (x.run s).1 (x.run s).2 with ⟨hdatabase', hsaved'⟩
    exact ⟨hdatabase'.trans hdatabase, hsaved'.trans hsaved⟩

end View

/-- A storage whose calls leave the database alone. -/
def Storage.Quiet (storage : Storage (StateM σ)) (view : View σ ω) : Prop :=
  view.quiet.Storages storage storage

variable {view : View σ ω}

theorem Storage.Acts.quiet {storage : Storage (StateM σ)} {remote : Storage (StateM ω)}
    (h : storage.Acts view remote) : storage.Quiet view where
  list := fun system path s => (h.list system path s).2
  stat := fun system path s => (h.stat system path s).2
  externalId := fun system s => (h.externalId system s).2

theorem Surveyor.savesBy_treat {surveyor : Surveyor (StateM σ)}
    (h : surveyor.storage.Quiet view) {Step : Database -> Database -> Prop}
    (provenance : Provenance) (item : Tracked) (time : Instant) (caches : Caches) :
    view.SavesBy Step (surveyor.treat provenance item time caches) := by
  intro s
  rcases Lockstep.rel_treat h provenance item time caches s with ⟨hdatabase, hsaved⟩
  exact .of_unsaved hdatabase hsaved

end Whereabouts
