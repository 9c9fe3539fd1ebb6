import Whereabouts.Proofs.Frame

/-!
# Progress

On a store that can always be read and written a check cannot get stuck.  Once its run
and its task are there it closes every batch, and in the end it closes the run first and
then the task, as completed or as failed.
-/

namespace Whereabouts

variable {σ ω α : Type} {view : View σ ω}

/-!
## Reliable vaults
-/

/-- A vault that can be read and written at any time. -/
structure Vault.Reliable (vault : Vault (StateM σ)) : Prop where
  readable : vault.Readable
  writable : forall db s fault, ((vault.save db).on s).1 ≠ .error fault

namespace Vault

variable {vault : Vault (StateM σ)}

theorem Reliable.transaction (hreliable : vault.Reliable) (h : vault.Holds view)
    (change : Database -> Except Fault (α × Database)) {s : σ} {a : α} {db : Database}
    (hchange : change (view.database s) = .ok (a, db)) :
    exists after, (vault.transaction change).on s = (.ok a, after) := by
  rcases snapshot_cases h s with ⟨result, loaded, hload, _, ⟨fault, hfault, _⟩ | hresult⟩
  · exact absurd hfault (hreliable.readable fault)
  · subst hresult
    have hsave := hreliable.writable db loaded
    rcases hon : (vault.save db).on loaded with ⟨result, after⟩
    rw [hon] at hsave
    cases result with
    | error fault => exact absurd rfl (hsave fault)
    | ok _ =>
        refine ⟨after, (Attempt.on_bind_of_ok hload).trans ?_⟩
        rw [hchange]
        exact Attempt.on_bind_of_ok hon

theorem Reliable.refuses (hreliable : vault.Reliable) (h : vault.Holds view)
    (change : Database -> Except Fault (α × Database)) {s : σ} {fault : Fault}
    (hchange : change (view.database s) = .error fault) :
    exists after, (vault.transaction change).on s = (.error fault, after) ∧
      view.Same s after := by
  rcases snapshot_cases h s with ⟨result, loaded, hload, hsame, ⟨fault, hfault, _⟩ | hresult⟩
  · exact absurd hfault (hreliable.readable fault)
  · subst hresult
    refine ⟨loaded, (Attempt.on_bind_of_ok hload).trans ?_, hsame⟩
    rw [hchange]
    rfl

end Vault

theorem MemoryWorld.vault_reliable :
    (MemoryWorld.vault : Vault (StateM (MemoryWorld ω))).Reliable where
  readable := MemoryWorld.vault_readable
  writable := MemoryWorld.vault_writable

def Run.endedAt (time : Instant) (run : Run) : Run :=
  { run with completedAt := some time }

theorem Run.ending_endedAt (time : Instant) : Run.Ending (Run.endedAt time) :=
  fun run => ⟨time, run.totalItems, run.itemsChecked, run.itemsFailed, rfl⟩

theorem Database.of_updateRun_endedAt {db after : Database} {projectId : Int64} {time : Instant}
    {closed : Run} (h : db.updateRun projectId (Run.endedAt time) = .ok (closed, after)) :
    (exists run, db.runOf? projectId = some run ∧ closed = run.endedAt time) ∧
      after.runOf? projectId = some closed := by
  rcases of_updateRun_eq_ok h with ⟨run, hrun, rfl, _, _, hrunOf⟩
  have hproject := projectId_of_runOf? hrun
  exact ⟨⟨run, hrun, rfl⟩, hrunOf hproject⟩

/-!
## Rows that stay
-/

namespace Database

variable {projectId key : Int64} {taskId : Option Int64} {before after db : Database}

theorem SameButCheck.runEntry? (h : SameButCheck projectId taskId before after) {run : Run}
    (hrun : before.runEntry? projectId = some (key, run)) :
    exists next, after.runEntry? projectId = some (key, next) ∧ run.Continues next := by
  have hkey : after.runKey? projectId = some key :=
    h.runKey.trans (congrArg (Option.map Prod.fst) hrun)
  rcases Option.map_eq_some_iff.mp hkey with ⟨⟨key', next⟩, hnext, hkey'⟩
  cases hkey'
  refine ⟨next, hnext, ?_⟩
  have hget := (of_runEntry?_eq_some hnext).1
  have hold := (of_runEntry?_eq_some hrun).1
  rcases h.runs key' with hsame | ⟨_, old, new, hold', hnew, hcontinues⟩
  · rw [hget, hold] at hsame
    cases hsame
    exact ⟨rfl, rfl, rfl, rfl⟩
  · rw [hget] at hnew
    rw [hold] at hold'
    cases hnew
    cases hold'
    exact hcontinues

theorem SameButCheck.task? (h : SameButCheck projectId taskId before after) {id : Int64}
    {task : Task}
    (htask : before.tasks.get? id = some task) :
    exists next, after.tasks.get? id = some next ∧ task.Continues next := by
  rcases h.tasks id with hsame | ⟨_, old, new, hold, hnew, hcontinues⟩
  · exact ⟨task, hsame.trans htask, rfl, rfl, rfl, rfl, rfl⟩
  · rw [htask] at hold
    cases hold
    exact ⟨new, hnew, hcontinues⟩

theorem SameButCheck.of_task? (h : SameButCheck projectId taskId before after) {id : Int64}
    {task : Task}
    (htask : after.tasks.get? id = some task) :
    exists old, before.tasks.get? id = some old ∧ old.Continues task := by
  rcases h.tasks id with hsame | ⟨_, old, new, hold, hnew, hcontinues⟩
  · exact ⟨task, hsame.symm.trans htask, rfl, rfl, rfl, rfl, rfl⟩
  · rw [htask] at hnew
    cases hnew
    exact ⟨old, hold, hcontinues⟩

/-- The project has a run, and the task that the run belongs to is there. -/
structure HasRunAndTask (projectId : Int64) (taskId : Option Int64) (db : Database) : Prop where
  run : exists key run, db.runEntry? projectId = some (key, run) ∧ run.taskId = taskId
  task : forall id, taskId = some id -> exists task, db.tasks.get? id = some task

theorem HasRunAndTask.sameButCheck (hrunAndTask : HasRunAndTask projectId taskId before)
    (h : SameButCheck projectId taskId before after) : HasRunAndTask projectId taskId after where
  run := by
    rcases hrunAndTask.run with ⟨key, run, hrun, htask⟩
    rcases h.runEntry? hrun with ⟨next, hnext, hcontinues⟩
    exact ⟨key, next, hnext, hcontinues.taskId.trans htask⟩
  task := by
    intro id hid
    rcases hrunAndTask.task id hid with ⟨task, htask⟩
    rcases h.task? htask with ⟨next, hnext, _⟩
    exact ⟨next, hnext⟩

end Database

theorem View.Follows.hasRunAndTask {projectId : Int64} {taskId : Option Int64} {s after : σ}
    (h : view.Follows (Database.SweepStep projectId taskId) s after)
    (hs : (view.database s).HasRunAndTask projectId taskId) :
    (view.database after).HasRunAndTask projectId taskId := by
  have hstep : forall x y, Database.HasRunAndTask projectId taskId x ->
      Database.SweepStep projectId taskId x y ->
        Database.HasRunAndTask projectId taskId y ∧ Database.SweepStep projectId taskId x y :=
    fun _ _ hx hxy => ⟨hx.sameButCheck hxy.sameButCheck, hxy⟩
  exact (h.keeps hs hstep).1.database

/-!
## Single operations
-/

section Operations

variable {vault : Vault (StateM σ)}

theorem Check.updateRun_succeeds (hvault : vault.Holds view) (hreliable : vault.Reliable)
    {projectId key : Int64} {run : Run} {s : σ} (update : Run -> Run)
    (hrun : Database.runEntry? (view.database s) projectId = some (key, run)) :
    exists after, (Check.updateRun vault projectId update).on s = (.ok (update run), after) ∧
      (view.database s).updateRun projectId update = .ok (update run, view.database after) ∧
      view.saved after = view.database after :: view.saved s := by
  rcases hreliable.transaction hvault (fun db => db.updateRun projectId update)
    (Database.updateRun_eq_ok_iff.mpr ⟨key, run, hrun, rfl, rfl⟩) with ⟨after, hon⟩
  rcases Vault.of_transaction_ok hvault hon with ⟨hchange, hsaved, _⟩
  exact ⟨after, hon, hchange, hsaved⟩

theorem Check.complete_succeeds (hvault : vault.Holds view) (hreliable : vault.Reliable)
    {clock : Clock (StateM σ)} (hclock : view.Still clock.now) {projectId key : Int64} {run : Run}
    {s : σ} (hrun : Database.runEntry? (view.database s) projectId = some (key, run)) :
    exists time after,
      (Check.complete vault clock projectId).on s = (.ok (run.endedAt time), after) ∧
      (view.database s).updateRun projectId (Run.endedAt time) =
        .ok (run.endedAt time, view.database after) ∧
      view.saved after = view.database after :: view.saved s := by
  have hsame := hclock s
  rcases hnow : clock.now.run s with ⟨time, early⟩
  rw [hnow] at hsame
  have hnow' : (Attempt.effect clock.now).on s = (.ok time, early) := by
    rw [Attempt.on_effect, hnow]
  rw [← hsame.database] at hrun ⊢
  rw [← hsame.saved]
  rcases Check.updateRun_succeeds hvault hreliable (Run.endedAt time) hrun with
    ⟨after, hupdate, hchange⟩
  exact ⟨time, after, (Attempt.on_bind_of_ok hnow').trans hupdate, hchange⟩

theorem Check.updateTask_succeeds (hvault : vault.Holds view) (hreliable : vault.Reliable)
    {clock : Clock (StateM σ)} (hclock : view.Still clock.now) {taskId : Int64} {task : Task}
    {s : σ} (status : TaskStatus) (message : String)
    (htask : (view.database s).tasks.get? taskId = some task) :
    exists time after,
      (Check.updateTask vault clock taskId status message).on s = (.ok (), after) ∧
      (view.database s).updateTask taskId status message time = .ok ((), view.database after) ∧
      view.saved after = view.database after :: view.saved s := by
  have hsame := hclock s
  rcases hnow : clock.now.run s with ⟨time, early⟩
  rw [hnow] at hsame
  have hnow' : (Attempt.effect clock.now).on s = (.ok time, early) := by
    rw [Attempt.on_effect, hnow]
  rw [← hsame.database] at htask ⊢
  rw [← hsame.saved]
  rcases hreliable.transaction hvault
    (fun db => db.updateTask taskId status message time)
    (Database.updateTask_eq_ok_iff.mpr ⟨task, htask, rfl⟩) with ⟨after, hon⟩
  rcases Vault.of_transaction_ok hvault hon with ⟨hchange, hsaved, _⟩
  exact ⟨time, after, (Attempt.on_bind_of_ok hnow').trans hon, hchange, hsaved⟩

theorem Check.updateTask_refused (hvault : vault.Holds view) (hreliable : vault.Reliable)
    {clock : Clock (StateM σ)} (hclock : view.Still clock.now) {taskId : Int64} {s : σ}
    (status : TaskStatus) (message : String)
    (hmissing : (view.database s).tasks.get? taskId = none) :
    exists after,
      (Check.updateTask vault clock taskId status message).on s =
        (.error (.missingTask taskId), after) ∧
      view.Same s after := by
  have hsame := hclock s
  rcases hnow : clock.now.run s with ⟨time, early⟩
  rw [hnow] at hsame
  have hnow' : (Attempt.effect clock.now).on s = (.ok time, early) := by
    rw [Attempt.on_effect, hnow]
  have hchange : (view.database early).updateTask taskId status message time =
      .error (.missingTask taskId) := by
    rw [hsame.database]
    unfold Database.updateTask
    rw [hmissing]
  rcases hreliable.refuses hvault (fun db => db.updateTask taskId status message time) hchange with
    ⟨after, hon, hstill⟩
  exact ⟨after, (Attempt.on_bind_of_ok hnow').trans hon, hsame.trans hstill⟩

theorem Session.commit_succeeds (hvault : vault.Holds view) (hreliable : vault.Reliable)
    (session : Session) (s : σ) :
    exists count next after, (session.commit vault).run s = ((.ok count, next), after) := by
  unfold Session.commit
  cases session.pending.isEmpty with
  | true => exact ⟨_, _, _, rfl⟩
  | false =>
      have hwritten : exists after, (vault.transaction fun db =>
          .ok (session.pending.present db, session.pending.apply db)).on s =
            (.ok (session.pending.present (view.database s)), after) :=
        hreliable.transaction hvault _ rfl
      rcases hwritten with ⟨after, hon⟩
      exact ⟨_, _, _, View.run_bind_of_eq hon⟩

end Operations

/-!
## Sweeps
-/

namespace Checker

variable {checker : Checker (StateM σ)} {surveyor : Surveyor (StateM σ)} {setup : Setup}

theorem publish_succeeds (halone : checker.Alone view) (hreliable : checker.vault.Reliable)
    (sweep : Sweep) {s : σ}
    (hs : (view.database s).HasRunAndTask setup.project.id setup.run.taskId) :
    exists after, (checker.publish setup sweep).on s = (.ok (), after) := by
  rcases hs.run with ⟨key, run, hrun, _⟩
  have hcounting : Run.Counting fun run : Run => { run with
      itemsChecked := sweep.processed - failedCount sweep
      itemsFailed := failedCount sweep } := fun run => ⟨run.totalItems, _, _, rfl⟩
  rcases Check.updateRun_succeeds halone.vault hreliable _ hrun with
    ⟨between, hupdate, hchange, _⟩
  have hbetween := hs.sameButCheck (Database.sameButCheck_updateRun hcounting.continues hchange)
  unfold publish
  dsimp only
  rw [Attempt.on_bind_of_ok hupdate]
  cases htask : setup.run.taskId with
  | none => exact ⟨_, rfl⟩
  | some id =>
      rcases hbetween.task id htask with ⟨task, hget⟩
      rcases Check.updateTask_succeeds halone.vault hreliable halone.now .running _ hget with
        ⟨_, after, hon, _⟩
      exact ⟨after, hon⟩

theorem closeBatch_succeeds (halone : checker.Alone view) (hreliable : checker.vault.Reliable)
    (sweep : Sweep) {s : σ}
    (hs : (view.database s).HasRunAndTask setup.project.id setup.run.taskId) :
    exists next after, (checker.closeBatch setup sweep).run s = ((.ok (), next), after) := by
  have hcommit : view.Follows (Database.SweepStep setup.project.id setup.run.taskId) s
      ((sweep.session.commit checker.vault).run s).2 :=
    Session.savesBy_commit halone.vault sweep.session (fun pending db => .moved db pending) s
  rcases Session.commit_succeeds halone.vault hreliable sweep.session s with
    ⟨count, session, between, hrun⟩
  rw [hrun] at hcommit
  rcases publish_succeeds halone hreliable { sweep with session := session.expire }
    (hcommit.hasRunAndTask hs) with ⟨after, hpublish⟩
  unfold closeBatch
  rw [View.run_bind_of_eq hrun]
  exact ⟨_, after, View.run_bind_of_eq hpublish⟩

/-- With the run and its task in place, every batch is closed. -/
theorem sweepAll_succeeds (halone : checker.Alone view) (hreliable : checker.vault.Reliable)
    (hquiet : surveyor.storage.Quiet view) (keys : List ItemKey) (sweep : Sweep) {s : σ}
    (hs : (view.database s).HasRunAndTask setup.project.id setup.run.taskId) :
    exists next after,
      (checker.sweepAll surveyor setup keys sweep).run s = ((.ok (), next), after) := by
  induction keys generalizing sweep s with
  | nil => exact ⟨sweep, s, rfl⟩
  | cons key rest ih =>
      have hitem : view.Follows (Database.SweepStep setup.project.id setup.run.taskId) s
          ((checker.sweepItem surveyor setup.provenance sweep key).run s).2 :=
        savesBy_sweepItem halone hquiet setup.provenance sweep key s
      rcases hsweep : (checker.sweepItem surveyor setup.provenance sweep key).run s with
        ⟨next, between⟩
      rw [hsweep] at hitem
      have hbetween := hitem.hasRunAndTask hs
      unfold sweepAll
      rw [View.run_bind_of_eq hsweep]
      split
      · have hclosed : view.Follows (Database.SweepStep setup.project.id setup.run.taskId) between
            ((checker.closeBatch setup next).run between).2 :=
          savesBy_closeBatch halone next between
        rcases closeBatch_succeeds halone hreliable next hbetween with ⟨last, final, hclose⟩
        rw [hclose] at hclosed
        rw [View.run_bind_of_eq hclose]
        exact ih last (hclosed.hasRunAndTask hbetween)
      · exact ih next hbetween

end Checker

/-!
## Ends
-/

/-- The run of a project ends, and then its task does, when there is one. -/
inductive Database.Closing (projectId : Int64) (taskId : Option Int64) (status : TaskStatus)
    (message : String) (before : Database) : List Database -> Database -> Prop
  | alone {update : Run -> Run} {run : Run} {after : Database} (hupdate : Run.Ending update)
      (hrun : before.updateRun projectId update = .ok (run, after)) (htask : taskId = none) :
      Closing projectId taskId status message before [after] after
  | both {update : Run -> Run} {run : Run} {middle after : Database} {id : Int64}
      {time : Instant} (hupdate : Run.Ending update)
      (hrun : before.updateRun projectId update = .ok (run, middle)) (hid : taskId = some id)
      (htask : middle.updateTask id status message time = .ok ((), after)) :
      Closing projectId taskId status message before [after, middle] after

theorem Database.Closing.rows {projectId : Int64} {taskId : Option Int64} {status : TaskStatus}
    {message : String} {before after : Database} {new : List Database}
    (h : Database.Closing projectId taskId status message before new after) :
    (exists run, after.runOf? projectId = some run ∧ run.completedAt.isSome = true) ∧
      forall id, taskId = some id -> exists task, after.tasks.get? id = some task ∧
        task.status = status ∧ task.latestMessage = some message ∧ task.updated.isSome = true := by
  have hended : forall update run after, Run.Ending update ->
      before.updateRun projectId update = .ok (run, after) ->
        exists run, after.runOf? projectId = some run ∧ run.completedAt.isSome = true := by
    intro update run after hupdate hrun
    rcases Database.updateRun_eq_ok_iff.mp hrun with ⟨key, old, hentry, rfl, rfl⟩
    have hproject : (update old).projectId = projectId :=
      (hupdate.continues old).projectId.trans (Database.of_runEntry?_eq_some hentry).2
    have hentry' := Database.runEntry?_insert hentry hproject
    refine ⟨update old, Database.runOf?_eq_some_iff.mpr ⟨key, hentry'⟩, ?_⟩
    rcases hupdate old with ⟨_, _, _, _, hold⟩
    rw [hold]
    rfl
  cases h with
  | alone hupdate hrun htask =>
      refine ⟨hended _ _ _ hupdate hrun, ?_⟩
      intro id hid
      rw [htask] at hid
      cases hid
  | both hupdate hrun hid htask =>
      rcases hended _ _ _ hupdate hrun with ⟨run, hrunOf, hcompleted⟩
      rcases Database.updateTask_eq_ok_iff.mp htask with ⟨task, hget, rfl⟩
      refine ⟨⟨run, hrunOf, hcompleted⟩, ?_⟩
      intro id hid'
      rw [hid] at hid'
      cases hid'
      exact ⟨_, OrderedMap.get?_insert_self _ _ _, rfl, rfl, rfl⟩

/-- Between two states of the world a project's run and its task came to their end. -/
def View.Closes (view : View σ ω) (projectId : Int64) (taskId : Option Int64)
    (status : TaskStatus) (message : String) (s after : σ) : Prop :=
  exists new, view.saved after = new ++ view.saved s ∧
    Database.Closing projectId taskId status message (view.database s) new
      (view.database after)

namespace View.Closes

variable {projectId : Int64} {taskId : Option Int64} {status : TaskStatus} {message : String}
  {s t u : σ}

theorem of_same (h : view.Closes projectId taskId status message s t)
    (hsame : view.Same t u) : view.Closes projectId taskId status message s u := by
  rcases h with ⟨new, hnew, hclosing⟩
  refine ⟨new, hsame.saved.trans hnew, ?_⟩
  rw [hsame.database]
  exact hclosing

theorem alone {update : Run -> Run} {run : Run} (hupdate : Run.Ending update)
    (hrun : (view.database s).updateRun projectId update = .ok (run, view.database t))
    (hsaved : view.saved t = view.database t :: view.saved s) :
    view.Closes projectId none status message s t :=
  ⟨[view.database t], hsaved, .alone hupdate hrun rfl⟩

theorem both {update : Run -> Run} {run : Run} {id : Int64} {time : Instant}
    (hupdate : Run.Ending update)
    (hrun : (view.database s).updateRun projectId update = .ok (run, view.database t))
    (hsaved : view.saved t = view.database t :: view.saved s)
    (htask : (view.database t).updateTask id status message time = .ok ((), view.database u))
    (hsaved' : view.saved u = view.database u :: view.saved t) :
    view.Closes projectId (some id) status message s u := by
  refine ⟨[view.database u, view.database t], ?_, .both hupdate hrun rfl htask⟩
  rw [hsaved', hsaved]
  rfl

end View.Closes

/-- What an outcome says of a run is what the row of the run says. -/
structure CheckOutcome.Reports (outcome : CheckOutcome) (run : Run) : Prop where
  runId : outcome.runId = some run.id
  totalItems : outcome.totalItems = run.totalItems
  itemsChecked : outcome.itemsChecked = run.itemsChecked

namespace Checker

variable {checker : Checker (StateM σ)} {setup : Setup}

theorem proclaim_closes (halone : checker.Alone view) (hreliable : checker.vault.Reliable)
    {projectId : Int64} {update : Run -> Run} {run : Run} (failed : UInt64) (message : String)
    {s ended : σ} (hupdate : Run.Ending update)
    (hrun : (view.database s).updateRun projectId update = .ok (run, view.database ended))
    (hsaved : view.saved ended = view.database ended :: view.saved s)
    (hrunAndTask : (view.database ended).HasRunAndTask projectId run.taskId) :
    exists after, (checker.proclaim projectId run failed message).on ended = (.ok (), after) ∧
      view.Closes projectId run.taskId .completed message s after := by
  have htrail := halone.trail
    { phase := "check", status := if failed = 0 then "completed" else "completed_with_errors",
      projectId := some projectId, message }
  unfold proclaim
  cases htask : run.taskId with
  | none => exact ⟨_, rfl, (View.Closes.alone hupdate hrun hsaved).of_same (htrail ended)⟩
  | some id =>
      rcases hrunAndTask.task id htask with ⟨task, hget⟩
      rcases Check.updateTask_succeeds halone.vault hreliable halone.now .completed message hget
        with ⟨time, closed, hon, hchange, hsaved'⟩
      have houtcome := Attempt.on_outcome (Check.updateTask checker.vault checker.clock id
        .completed message) ended
      rw [hon] at houtcome
      refine ⟨_, Attempt.on_bind_of_ok houtcome, ?_⟩
      exact (View.Closes.both hupdate hrun hsaved hchange hsaved').of_same (htrail closed)

/-- A check that is through with its items is completed. -/
theorem finish_succeeds (halone : checker.Alone view) (hreliable : checker.vault.Reliable)
    (sweep : Sweep) {s : σ}
    (hs : (view.database s).HasRunAndTask setup.project.id setup.run.taskId) :
    exists outcome mid after, (checker.finish setup sweep).on s = (.ok outcome, after) ∧
      outcome.status = .completed ∧
      view.Follows (Database.SweepStep setup.project.id setup.run.taskId) s mid ∧
      view.Closes setup.project.id setup.run.taskId .completed outcome.message mid after := by
  have hcommit : view.Follows (Database.SweepStep setup.project.id setup.run.taskId) s
      ((sweep.session.commit checker.vault).run s).2 :=
    Session.savesBy_commit halone.vault sweep.session (fun pending db => .moved db pending) s
  rcases Session.commit_succeeds halone.vault hreliable sweep.session s with
    ⟨count, session, between, hrun⟩
  rw [hrun] at hcommit
  have hon : Attempt.on (ExceptT.mk do return (<- sweep.session.commit checker.vault).1) s =
      (.ok count, between) := View.run_bind_of_eq hrun
  have hclock := halone.now between
  rcases hnow : checker.clock.now.run between with ⟨time, mid⟩
  rw [hnow] at hclock
  have hnow' : (Attempt.effect checker.clock.now).on between = (.ok time, mid) := by
    rw [Attempt.on_effect, hnow]
  have hmid := hcommit.trans (View.Follows.of_same hclock)
  have hrunAndTask := hmid.hasRunAndTask hs
  rcases hrunAndTask.run with ⟨key, run, hentry, htask⟩
  let close (run : Run) : Run := { run with
    completedAt := some time
    itemsChecked := UInt64.ofNat setup.work.length - failedCount sweep
    itemsFailed := failedCount sweep }
  have hending : Run.Ending close := fun run => ⟨time, run.totalItems, _, _, rfl⟩
  rcases Check.updateRun_succeeds halone.vault hreliable close hentry with
    ⟨ended, hupdate, hchange, hsaved⟩
  have hended := hrunAndTask.sameButCheck
    (Database.sameButCheck_updateRun hending.continues hchange)
  rw [← htask] at hended
  rcases proclaim_closes halone hreliable (failedCount sweep)
    (finalMessage (UInt64.ofNat setup.work.length) (failedCount sweep)) hending hchange hsaved
    hended with ⟨after, hproclaim, hcloses⟩
  change view.Closes _ run.taskId _ _ _ _ at hcloses
  rw [htask] at hcloses
  let outcome : CheckOutcome :=
    { projectId := setup.project.id, runId := some (close run).id, status := .completed,
      totalItems := UInt64.ofNat setup.work.length, itemsChecked := (close run).itemsChecked,
      failures := sweep.failures,
      message := finalMessage (UInt64.ofNat setup.work.length) (failedCount sweep) }
  refine ⟨outcome, mid, after, ?_, rfl, hmid, hcloses⟩
  unfold finish
  rw [Attempt.on_bind_of_ok hon, Attempt.on_bind_of_ok hnow', Attempt.on_bind_of_ok hupdate]
  exact Attempt.on_bind_of_ok hproclaim

theorem of_finish_ok {sweep : Sweep} {outcome : CheckOutcome} {s after : σ}
    (h : (checker.finish setup sweep).on s = (.ok outcome, after)) :
    outcome.projectId = setup.project.id ∧
      outcome.message = finalMessage outcome.totalItems (UInt64.ofNat outcome.failures.length) := by
  rcases Attempt.of_on_bind_ok h with ⟨_, _, _, hrest⟩
  rcases Attempt.of_on_bind_ok hrest with ⟨_, _, _, hrest⟩
  rcases Attempt.of_on_bind_ok hrest with ⟨_, _, _, hrest⟩
  rcases Attempt.of_on_bind_ok hrest with ⟨_, _, _, hpure⟩
  cases hpure
  exact ⟨rfl, rfl⟩

def failureMessage {m : Type -> Type} (checker : Checker m) (fault : Fault) : String :=
  "Check failed: " ++ Text.shortened checker.engine.runErrorLimit fault.message

/-- How a failed check is marked as such: its run ends with the counters that it has, and
then its task fails, when there is one. -/
inductive Persists (view : View σ ω) (projectId : Int64) (run : Run) (message : String) (s : σ) :
    Except Fault (Option Run) -> σ -> Prop
  | alone {time : Instant} {closed : Run} {after : σ}
      (hrun : (view.database s).updateRun projectId (Run.endedAt time) =
        .ok (closed, view.database after))
      (hsaved : view.saved after = view.database after :: view.saved s)
      (htask : run.taskId = none) :
      Persists view projectId run message s (.ok (some closed)) after
  | both {time : Instant} {closed : Run} {ended after : σ} {id : Int64} {task : Task}
      {time' : Instant}
      (hrun : (view.database s).updateRun projectId (Run.endedAt time) =
        .ok (closed, view.database ended))
      (hsaved : view.saved ended = view.database ended :: view.saved s)
      (htask : run.taskId = some id) (hget : (view.database s).tasks.get? id = some task)
      (hfailed : (view.database ended).updateTask id .failed message time' =
        .ok ((), view.database after))
      (hsaved' : view.saved after = view.database after :: view.saved ended) :
      Persists view projectId run message s (.ok (some closed)) after
  | taskless {time : Instant} {closed : Run} {ended after : σ} {id : Int64}
      (hrun : (view.database s).updateRun projectId (Run.endedAt time) =
        .ok (closed, view.database ended))
      (hsaved : view.saved ended = view.database ended :: view.saved s)
      (htask : run.taskId = some id) (hget : (view.database s).tasks.get? id = none)
      (hsame : view.Same ended after) :
      Persists view projectId run message s
        (.error (.within ("check for project " ++ Fault.idText projectId
          ++ " failed and could not be marked failed") (.missingTask id))) after

theorem persistFailure_persists (halone : checker.Alone view) (hreliable : checker.vault.Reliable)
    {projectId key : Int64} {stored : Run} (run : Run) (message : String) {s : σ}
    (hentry : Database.runEntry? (view.database s) projectId = some (key, stored)) :
    exists result after,
      (checker.persistFailure projectId (some run) message).on s = (result, after) ∧
      Persists view projectId run message s result after := by
  rcases Check.complete_succeeds halone.vault hreliable halone.now hentry with
    ⟨time, ended, hcomplete, hrun, hsaved⟩
  rcases Database.of_updateRun_eq_ok hrun with ⟨_, _, _, _, htasks, _⟩
  unfold persistFailure
  cases htask : run.taskId with
  | none =>
      refine ⟨_, ended, Attempt.on_within_of_ok _ ?_, .alone hrun hsaved htask⟩
      rw [Attempt.on_bind_of_ok hcomplete, htask]
      rfl
  | some id =>
      cases hget : (view.database s).tasks.get? id with
      | some task =>
          have hget' := hget
          rw [← htasks] at hget'
          rcases Check.updateTask_succeeds halone.vault hreliable halone.now .failed message hget'
            with ⟨_, after, hfailed, hchange, hsaved'⟩
          refine ⟨_, after, Attempt.on_within_of_ok _ ?_,
            .both hrun hsaved htask hget hchange hsaved'⟩
          rw [Attempt.on_bind_of_ok hcomplete, htask]
          exact Attempt.on_bind_of_ok hfailed
      | none =>
          have hget' := hget
          rw [← htasks] at hget'
          rcases Check.updateTask_refused halone.vault hreliable halone.now .failed message hget'
            with ⟨after, hrefused, hsame⟩
          refine ⟨_, after, Attempt.on_within_of_error _ ?_,
            .taskless hrun hsaved htask hget hsame⟩
          rw [Attempt.on_bind_of_ok hcomplete, htask]
          exact Attempt.on_bind_of_error hrefused

/-- What is reported of a failed check, with its run as it was marked. -/
def failedOutcome {m : Type -> Type} (checker : Checker m) (projectId : Int64) (run : Option Run)
    (fault : Fault) : CheckOutcome where
  projectId := projectId
  runId := run.map Run.id
  status := .failed
  totalItems := (run.map Run.totalItems).getD 0
  itemsChecked := (run.map Run.itemsChecked).getD 0
  failures := []
  message := checker.failureMessage fault

theorem fail_of_persisted (halone : checker.Alone view) {projectId : Int64} {run : Option Run}
    {fault : Fault} {persisted : Option Run} {s between : σ}
    (h : (checker.persistFailure projectId run (checker.failureMessage fault)).on s =
      (.ok persisted, between)) :
    exists after,
      (checker.fail projectId run fault).on s =
        (.ok (checker.failedOutcome projectId persisted fault), after) ∧
      view.Same between after :=
  ⟨_, Attempt.on_bind_of_ok h, halone.trail
    { phase := "check", status := "failed", projectId := some projectId,
      message := checker.failureMessage fault } between⟩

theorem fail_of_unpersisted {projectId : Int64} {run : Option Run} {fault refusal : Fault}
    {s after : σ}
    (h : (checker.persistFailure projectId run (checker.failureMessage fault)).on s =
      (.error refusal, after)) :
    (checker.fail projectId run fault).on s = (.error refusal, after) :=
  Attempt.on_bind_of_error h

theorem fail_succeeds (halone : checker.Alone view) (hreliable : checker.vault.Reliable)
    {projectId : Int64} {run : Run} (fault : Fault) {s : σ}
    (hs : (view.database s).HasRunAndTask projectId run.taskId) :
    exists outcome after, (checker.fail projectId (some run) fault).on s = (.ok outcome, after) ∧
      outcome.status = .failed ∧
      (exists last, (view.database after).runOf? projectId = some last ∧
        outcome.Reports last) ∧
      view.Closes projectId run.taskId .failed outcome.message s after := by
  have hpersist : exists updated between,
      (checker.persistFailure projectId (some run) (checker.failureMessage fault)).on s =
          (.ok (some updated), between) ∧
        (view.database between).runOf? projectId = some updated ∧
        view.Closes projectId run.taskId .failed (checker.failureMessage fault) s between := by
    rcases hs.run with ⟨key, stored, hentry, _⟩
    rcases persistFailure_persists halone hreliable run (checker.failureMessage fault) hentry with
      ⟨result, between, hpersist, hpersists⟩
    cases hpersists with
    | alone hrun hsaved htask =>
        refine ⟨_, between, hpersist, (Database.of_updateRun_endedAt hrun).2, ?_⟩
        rw [htask]
        exact .alone (Run.ending_endedAt _) hrun hsaved
    | both hrun hsaved htask _ hfailed hsaved' =>
        refine ⟨_, between, hpersist, ?_, ?_⟩
        · rw [Database.runOf?, (Database.of_updateTask_eq_ok hfailed).2]
          exact (Database.of_updateRun_endedAt hrun).2
        · rw [htask]
          exact .both (Run.ending_endedAt _) hrun hsaved hfailed hsaved'
    | taskless _ _ htask hget _ =>
        rcases hs.task _ htask with ⟨task, htask⟩
        rw [hget] at htask
        cases htask
  rcases hpersist with ⟨updated, between, hpersisted, hlast, hcloses⟩
  rcases fail_of_persisted halone hpersisted with ⟨after, hfail, hsame⟩
  refine ⟨_, after, hfail, rfl, ⟨updated, ?_, rfl, rfl, rfl⟩, hcloses.of_same hsame⟩
  rw [hsame.database]
  exact hlast

/-- On a reliable store a check of a project with a run ends with an outcome, and when it
does, run and task have come to their end. -/
theorem conduct_closes (halone : checker.Alone view) (hreliable : checker.vault.Reliable)
    {connect : String -> Attempt (StateM σ) (Storage (StateM σ))}
    (hquietly : ConnectsQuietly connect view) {projectId : Int64} (userId : Int64)
    (externalIds : OrderedMap String (Option String)) {s : σ} {run : Run}
    (hfiled : (view.database s).Filed projectId)
    (hrun : (view.database s).runOf? projectId = some run)
    (hs : (view.database s).HasRunAndTask projectId run.taskId) :
    exists outcome known mid after,
      (checker.conduct projectId userId externalIds connect).run s =
        ((.ok outcome, known), after) ∧
      outcome.status.isTerminal = true ∧
      (outcome.status = .failed ->
        exists last, (view.database after).runOf? projectId = some last ∧
          outcome.Reports last) ∧
      view.Follows (Database.SweepStep projectId run.taskId) s mid ∧
      view.Closes projectId run.taskId outcome.status outcome.message mid after := by
  have howned : (view.database s).Owned projectId run.taskId := by
    intro other hother
    rw [hrun] at hother
    cases hother
    rfl
  rcases conduct_phases halone hquietly projectId userId externalIds hfiled howned with
    ⟨result, known, mid, after, hconduct, hsweepSteps, hconcludes⟩
  have hmid := hsweepSteps.hasRunAndTask hs
  have hfinish : forall setup sweep, (view.database s).setup projectId userId = .ok setup ->
      exists outcome late final, (checker.finish setup sweep).on mid = (.ok outcome, final) ∧
        outcome.status = .completed ∧
        view.Follows (Database.SweepStep projectId run.taskId) mid late ∧
        view.Closes projectId run.taskId .completed outcome.message late final := by
    intro setup sweep hsetup
    rcases Database.of_setup_eq_ok hsetup with ⟨hproject, _, hsetupRun, _⟩
    have hid : setup.project.id = projectId := hfiled _ hproject
    rw [hrun] at hsetupRun
    cases hsetupRun
    rw [← hid] at hmid ⊢
    exact finish_succeeds halone hreliable sweep hmid
  cases hconcludes with
  | unread hfault => exact absurd hfault (hreliable.readable _)
  | failed hfail =>
      rcases fail_succeeds halone hreliable _ hmid with
        ⟨outcome, final, hon, hstatus, hreports, hcloses⟩
      rw [hrun, hon] at hfail
      cases hfail
      rw [← hstatus] at hcloses
      refine ⟨outcome, known, mid, after, hconduct, ?_, fun _ => hreports, hsweepSteps, hcloses⟩
      rw [hstatus]
      rfl
  | unfinished hsetup hfault hfail =>
      rcases hfinish _ _ hsetup with ⟨outcome, late, final, hon, _⟩
      rw [hon] at hfault
      cases hfault
  | finished hsetup hon =>
      rcases hfinish _ _ hsetup with ⟨outcome, late, final, hon', hstatus, hlate, hcloses⟩
      rw [hon'] at hon
      cases hon
      rw [← hstatus] at hcloses
      refine ⟨_, known, late, after, hconduct, ?_, ?_, hsweepSteps.trans hlate, hcloses⟩
      · rw [hstatus]
        rfl
      · intro hfailed
        rw [hstatus] at hfailed
        cases hfailed

end Checker
end Whereabouts
