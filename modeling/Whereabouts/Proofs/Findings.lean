import Whereabouts.Proofs.Bookkeeping
import Whereabouts.Proofs.Lockstep

/-!
# Findings

What a check finds out about the items of its work list, one after the other, and
how far a database is between the start of a check and its end.
-/

namespace Whereabouts

variable {ω : Type}

/-- What became of one item of a work list: its new location, or a fault. -/
structure Finding where
  key : ItemKey
  result : Except Fault Location

namespace Finding

def failed (finding : Finding) : Bool :=
  match finding.result with
  | .ok _ => false
  | .error _ => true

def move (finding : Finding) (key : ItemKey) : Option Location :=
  match finding.result with
  | .ok loc => if key = finding.key then some loc else none
  | .error _ => none

end Finding

/-- The location found for a key; the last finding counts. -/
def found : List Finding -> ItemKey -> Option Location
  | [], _ => none
  | finding :: rest, key => (found rest key).or (finding.move key)

theorem found_append (a b : List Finding) (key : ItemKey) :
    found (a ++ b) key = (found b key).or (found a key) := by
  induction a with
  | nil => simp [found]
  | cons finding rest ih =>
      rw [List.cons_append, found, found, ih, Option.or_assoc]

theorem found_of_not_mem {findings : List Finding} {key : ItemKey}
    (h : key ∉ findings.map Finding.key) : found findings key = none := by
  induction findings with
  | nil => rfl
  | cons finding rest ih =>
      rw [List.map_cons, List.mem_cons, not_or] at h
      rw [found, ih h.2]
      unfold Finding.move
      cases finding.result with
      | error fault => rfl
      | ok loc => simp [h.1]

theorem found_of_mem {findings : List Finding} {finding : Finding}
    (hnodup : (findings.map Finding.key).Nodup) (hmem : finding ∈ findings) :
    found findings finding.key = finding.move finding.key := by
  induction findings with
  | nil => cases hmem
  | cons first rest ih =>
      rw [List.map_cons, List.nodup_cons] at hnodup
      rw [found]
      rcases List.mem_cons.mp hmem with hfirst | hrest
      · rw [hfirst, found_of_not_mem hnodup.1]
        rfl
      · have hne : finding.key ≠ first.key := by
          intro heq
          exact hnodup.1 (heq ▸ List.mem_map_of_mem hrest)
        have hmove : first.move finding.key = none := by
          unfold Finding.move
          cases first.result with
          | error fault => rfl
          | ok loc => simp [hne]
        rw [ih hnodup.2 hrest, hmove, Option.or_none]

theorem mem_of_found_eq_some {findings : List Finding} {key : ItemKey} {loc : Location}
    (h : found findings key = some loc) :
    exists finding, finding ∈ findings ∧ finding.key = key ∧ finding.result = .ok loc := by
  induction findings with
  | nil => cases h
  | cons first rest ih =>
      rw [found, Option.or_eq_some_iff] at h
      rcases h with hrest | ⟨_, hfirst⟩
      · rcases ih hrest with ⟨finding, hmem, hfinding⟩
        exact ⟨finding, List.mem_cons_of_mem _ hmem, hfinding⟩
      · refine ⟨first, List.mem_cons_self, ?_⟩
        unfold Finding.move at hfirst
        cases hresult : first.result with
        | error fault =>
            rw [hresult] at hfirst
            cases hfirst
        | ok other =>
            rw [hresult] at hfirst
            by_cases hkey : key = first.key
            · simp only [hkey, if_true] at hfirst
              cases hfirst
              exact ⟨hkey.symm, rfl⟩
            · simp only [hkey, if_false] at hfirst
              cases hfirst

/-!
## Assessments
-/

/-- What is found about an item from what is cached and the state of remote storage,
with what is cached and that state afterwards. -/
def Surveyor.assess (surveyor : Surveyor (StateM ω)) (provenance : Provenance)
    (item : Tracked) (time : Instant) (start : Caches × ω) :
    Except Fault Location × (Caches × ω) :=
  let out := (surveyor.treat provenance item time start.1).run start.2
  match out.1.1 with
  | .ok _ => (.ok out.1.2.location, (out.1.2.caches, out.2))
  | .error failure => (.error (.storage failure), (out.1.2.caches, out.2))

section Assessments

variable (surveyor : Surveyor (StateM ω)) (provenance : Provenance) (origin : Database)
  (unread : Fault -> Prop)

/-- A finding about an item as a database has it.  An item that cannot be read is
not looked for on remote storage. -/
inductive Assess : Caches × ω -> Finding -> Caches × ω -> Prop
  | checked {start : Caches × ω} {key : ItemKey} {item : Tracked} (time : Instant)
      (hitem : origin.tracked? key = some item) :
      Assess start ⟨key, (surveyor.assess provenance item time start).1⟩
        (surveyor.assess provenance item time start).2
  | unread {start : Caches × ω} {key : ItemKey} {fault : Fault} (hfault : unread fault) :
      Assess start ⟨key, .error fault⟩ start

/-- Findings one after the other, each from what the one before it left. -/
inductive Assessed : Caches × ω -> List Finding -> Caches × ω -> Prop
  | nil (start : Caches × ω) : Assessed start [] start
  | cons {start between after : Caches × ω} {finding : Finding} {rest : List Finding}
      (first : Assess surveyor provenance origin unread start finding between)
      (others : Assessed between rest after) :
      Assessed start (finding :: rest) after

variable {surveyor provenance origin unread}

theorem Assess.of_eq {start after : Caches × ω} {key : ItemKey} {item : Tracked}
    {time : Instant} {result : Except Fault Location} (hitem : origin.tracked? key = some item)
    (h : surveyor.assess provenance item time start = (result, after)) :
    Assess surveyor provenance origin unread start ⟨key, result⟩ after := by
  have hchecked : Assess surveyor provenance origin unread start _ _ := .checked time hitem
  rw [h] at hchecked
  exact hchecked

end Assessments

/-!
## Stages
-/

namespace Database

/-- A database that a check of a project has come to: the locations of some findings
are written, and something is known of the project's run. -/
structure Stage (origin : Database) (projectId : Int64) (tally : Option Run -> Prop)
    (written : List Finding) (db : Database) : Prop where
  moved : origin.Moved (found written) db
  sources : SameSources origin db
  counted : tally (db.runOf? projectId)

/-- A database with the locations of the first few of some findings. -/
def Reached (origin : Database) (projectId : Int64) (findings : List Finding)
    (db : Database) : Prop :=
  exists written, written <+: findings ∧ Stage origin projectId (fun _ => True) written db

def announced (total : UInt64) (run : Option Run) : Prop :=
  run.map Run.totalItems = some total

variable {origin db after : Database} {projectId : Int64} {tally later : Option Run -> Prop}
  {written findings : List Finding}

theorem Stage.start (origin : Database) (projectId : Int64) :
    Stage origin projectId (fun _ => True) [] origin where
  moved := (SameItems.refl origin).moved
  sources := SameSources.refl origin
  counted := trivial

theorem Stage.reached (h : Stage origin projectId tally written db)
    (hfindings : written <+: findings) : Reached origin projectId findings db :=
  ⟨written, hfindings, h.moved, h.sources, trivial⟩

theorem Reached.mono {more : List Finding} (h : Reached origin projectId findings db)
    (hmore : findings <+: more) : Reached origin projectId more db := by
  rcases h with ⟨written, hwritten, hstage⟩
  exact ⟨written, hwritten.trans hmore, hstage⟩

theorem Reached.tracked?_cases (h : Reached origin projectId findings db) (key : ItemKey) :
    db.tracked? key = origin.tracked? key ∨
      exists finding loc, finding ∈ findings ∧ finding.key = key ∧ finding.result = .ok loc ∧
        db.tracked? key = (origin.tracked? key).map (Tracked.moved loc) := by
  rcases h with ⟨written, hwritten, hstage⟩
  cases hfound : found written key with
  | none => exact Or.inl (hstage.moved.tracked?_of_none hfound)
  | some loc =>
      rcases mem_of_found_eq_some hfound with ⟨finding, hmem, hkey, hresult⟩
      refine Or.inr ⟨finding, loc, hwritten.subset hmem, hkey, hresult, ?_⟩
      rw [hstage.moved key, hfound]
      rfl

theorem Stage.sameButRuns (h : Stage origin projectId tally written db)
    (hbook : SameButRuns db after) (hcounted : later (after.runOf? projectId)) :
    Stage origin projectId later written after where
  moved := h.moved.sameItems hbook.sameItems
  sources := h.sources.trans hbook.sameSources
  counted := hcounted

theorem Stage.weaken (h : Stage origin projectId tally written db)
    (htally : forall run, tally run -> later run) :
    Stage origin projectId later written db :=
  ⟨h.moved, h.sources, htally _ h.counted⟩

theorem Stage.updateRun {update : Run -> Run} {run : Run}
    (h : Stage origin projectId tally written db)
    (hproject : forall run, (update run).projectId = run.projectId)
    (hupdate : db.updateRun projectId update = .ok (run, after)) :
    exists old, run = update old ∧ tally (some old) ∧
      Stage origin projectId (fun stored => stored = some run) written after := by
  rcases of_updateRun_eq_ok hupdate with ⟨old, hold, hrun, hbook, _, hfound⟩
  have hcounted := h.counted
  rw [hold] at hcounted
  refine ⟨old, hrun, hcounted, h.sameButRuns hbook (hfound ?_)⟩
  rw [hrun, hproject]
  exact projectId_of_runOf? hold

theorem Stage.updateTask {taskId : Int64} {status : TaskStatus} {message : String}
    {time : Instant} (h : Stage origin projectId tally written db)
    (hupdate : db.updateTask taskId status message time = .ok ((), after)) :
    Stage origin projectId tally written after := by
  rcases of_updateTask_eq_ok hupdate with ⟨hbook, hruns⟩
  apply h.sameButRuns hbook
  unfold runOf?
  rw [hruns]
  exact h.counted

theorem Stage.commit {batch : List Finding} (h : Stage origin projectId tally written db)
    (hmoved : db.Moved (found batch) after) (hsources : SameSources db after)
    (hruns : after.runs = db.runs) :
    Stage origin projectId tally (written ++ batch) after where
  moved := by
    intro key
    rw [found_append]
    exact h.moved.trans hmoved key
  sources := h.sources.trans hsources
  counted := by
    unfold runOf?
    rw [hruns]
    exact h.counted

end Database

/-!
## Bookkeeping at a stage
-/

section Bookkeeping

variable {σ : Type} {view : View σ ω} {vault : Vault (StateM σ)} {origin : Database}
  {projectId : Int64} {tally : Option Run -> Prop} {written : List Finding}

theorem Check.preserves_updateRun (hvault : vault.Holds view) {update : Run -> Run}
    (hproject : forall run, (update run).projectId = run.projectId)
    (htally : forall run, tally (some run) -> tally (some (update run))) :
    view.Preserves (Database.Stage origin projectId tally written)
      (Check.updateRun vault projectId update).run := by
  apply Vault.preserves_transaction hvault
  intro db run after hstage hchange
  rcases hstage.updateRun hproject hchange with ⟨old, hrun, hold, hafter⟩
  apply hafter.weaken
  intro stored hstored
  rw [hstored, hrun]
  exact htally old hold

theorem Check.updateRun_cases (hvault : vault.Holds view) {s : σ}
    (h : Database.Stage origin projectId tally written (view.database s)) (update : Run -> Run)
    (hproject : forall run, (update run).projectId = run.projectId) :
    exists result after, (Check.updateRun vault projectId update).on s = (result, after) ∧
      view.outside after = view.outside s ∧
      view.Keeps (Database.Reached origin projectId written) s after ∧
      ((exists fault, result = .error fault) ∨
        exists old, result = .ok (update old) ∧ tally (some old) ∧
          Database.Stage origin projectId (fun stored => stored = some (update old)) written
            (view.database after)) := by
  rcases Vault.transaction_cases hvault (fun db => db.updateRun projectId update) s with
    ⟨fault, hresult, hsame⟩ | ⟨run, db, hresult, hupdate, hdatabase, hsaved, houtside⟩
  · have hreached := h.reached (List.prefix_refl written)
    exact ⟨_, _, rfl, hsame.outside, View.Keeps.of_same hsame hreached,
      Or.inl ⟨fault, hresult⟩⟩
  · rcases h.updateRun hproject hupdate with ⟨old, hrun, hold, hafter⟩
    subst hrun
    rw [← hdatabase] at hsaved hafter
    refine ⟨_, _, rfl, houtside, ?_, Or.inr ⟨old, hresult, hold, hafter⟩⟩
    refine ⟨hafter.reached (List.prefix_refl written), [_], hsaved, ?_⟩
    intro db hdb
    rw [List.mem_singleton.mp hdb]
    exact hafter.reached (List.prefix_refl written)

theorem Check.preserves_updateTask (hvault : vault.Holds view) {clock : Clock (StateM σ)}
    (hclock : view.Still clock.now) (taskId : Int64) (status : TaskStatus)
    (message : String) :
    view.Preserves (Database.Stage origin projectId tally written)
      (Check.updateTask vault clock taskId status message).run := by
  apply View.preserves_attempt_bind (View.preserves_effect (hclock.preserves _))
  intro time
  apply Vault.preserves_transaction hvault
  intro db _ after hstage hchange
  exact hstage.updateTask hchange

end Bookkeeping
end Whereabouts
