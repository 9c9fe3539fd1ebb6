import Whereabouts.Proofs.Accounting
import Whereabouts.Proofs.Histories

/-!
# Check steps

Everything that a check ever writes is one of a few small changes: locations that
waited, counters and progress while it goes through the items, and the end of the run
and of its task.  What holds of each of these changes holds of every database that a
check saves.
-/

namespace Whereabouts

variable {σ ω : Type} {view : View σ ω}

/-!
## Changes
-/

/-- A change of a run that concerns nothing but its counters. -/
def Run.Counting (update : Run -> Run) : Prop :=
  forall run, exists total checked failed,
    update run = { run with totalItems := total, itemsChecked := checked, itemsFailed := failed }

/-- A change of a run that ends it. -/
def Run.Ending (update : Run -> Run) : Prop :=
  forall run, exists time total checked failed,
    update run = { run with
      completedAt := some time, totalItems := total, itemsChecked := checked,
      itemsFailed := failed }

namespace Database

/-- What a check writes while it goes through the items. -/
inductive SweepStep (projectId : Int64) (taskId : Option Int64) : Database -> Database -> Prop
  | moved (db : Database) (pending : Pending) :
      SweepStep projectId taskId db (pending.apply db)
  | counted {db after : Database} {update : Run -> Run} {run : Run}
      (hupdate : Run.Counting update)
      (h : db.updateRun projectId update = .ok (run, after)) :
      SweepStep projectId taskId db after
  | noted {db after : Database} {id : Int64} {message : String} {time : Instant}
      (hid : taskId = some id)
      (h : db.updateTask id .running message time = .ok ((), after)) :
      SweepStep projectId taskId db after

/-- What a check writes at any time. -/
inductive CheckStep (projectId : Int64) (taskId : Option Int64) : Database -> Database -> Prop
  | sweepStep {db after : Database} (h : SweepStep projectId taskId db after) :
      CheckStep projectId taskId db after
  | ended {db after : Database} {update : Run -> Run} {run : Run}
      (hupdate : Run.Ending update)
      (h : db.updateRun projectId update = .ok (run, after)) :
      CheckStep projectId taskId db after
  | closed {db after : Database} {id : Int64} {status : TaskStatus} {message : String}
      {time : Instant} (hid : taskId = some id) (hstatus : status.isTerminal = true)
      (h : db.updateTask id status message time = .ok ((), after)) :
      CheckStep projectId taskId db after

/-- The project's row, if there is one, states the id that it is stored under. -/
def Filed (projectId : Int64) (db : Database) : Prop :=
  forall project, db.projects.get? projectId = some project -> project.id = projectId

/-- The project's run, if there is one, belongs to a task. -/
def Owned (projectId : Int64) (taskId : Option Int64) (db : Database) : Prop :=
  forall run, db.runOf? projectId = some run -> run.taskId = taskId

theorem owned_runOf? (db : Database) (projectId : Int64) :
    db.Owned projectId ((db.runOf? projectId).bind Run.taskId) := by
  intro run hrun
  rw [hrun]
  rfl

theorem Owned.updateRun {projectId : Int64} {taskId : Option Int64} {db after : Database}
    {update : Run -> Run} {run : Run} (h : db.Owned projectId taskId)
    (hupdate : db.updateRun projectId update = .ok (run, after))
    (hproject : forall run, (update run).projectId = run.projectId)
    (htask : forall run, (update run).taskId = run.taskId) :
    run.taskId = taskId ∧ after.Owned projectId taskId := by
  rcases of_updateRun_eq_ok hupdate with ⟨old, hold, rfl, _, _, hafter⟩
  have howned : (update old).taskId = taskId := (htask old).trans (h old hold)
  refine ⟨howned, ?_⟩
  intro run hrun
  rw [hafter ((hproject old).trans (projectId_of_runOf? hold))] at hrun
  cases hrun
  exact howned

theorem Owned.of_runs {projectId : Int64} {taskId : Option Int64} {db after : Database}
    (h : db.Owned projectId taskId) (hruns : after.runs = db.runs) :
    after.Owned projectId taskId := by
  unfold Owned runOf?
  rw [hruns]
  exact h

theorem SweepStep.owned {projectId : Int64} {taskId owner : Option Int64}
    {db after : Database} (h : SweepStep projectId taskId db after)
    (hdb : db.Owned projectId owner) : after.Owned projectId owner := by
  cases h with
  | moved pending => exact hdb.of_runs (apply_sources pending db).2
  | counted hupdate h =>
      refine (hdb.updateRun h ?_ ?_).2
      · intro run
        rcases hupdate run with ⟨_, _, _, hrun⟩
        rw [hrun]
      · intro run
        rcases hupdate run with ⟨_, _, _, hrun⟩
        rw [hrun]
  | noted hid h => exact hdb.of_runs (of_updateTask_eq_ok h).2

end Database

/-!
## Single operations
-/

section Operations

variable {vault : Vault (StateM σ)} {Step : Database -> Database -> Prop}

theorem Check.savesBy_updateRun (hvault : vault.Holds view) {projectId : Int64}
    {update : Run -> Run}
    (hstep : forall db run after, db.updateRun projectId update = .ok (run, after) ->
      Step db after) :
    view.SavesBy Step (Check.updateRun vault projectId update).run :=
  View.savesBy_transaction hvault hstep

theorem Check.of_updateTask_ok (hvault : vault.Holds view) {clock : Clock (StateM σ)}
    (hclock : view.Still clock.now) {id : Int64} {status : TaskStatus} {message : String}
    {s after : σ}
    (h : (Check.updateTask vault clock id status message).on s = (.ok (), after)) :
    exists time,
      (view.database s).updateTask id status message time = .ok ((), view.database after) ∧
      view.saved after = view.database after :: view.saved s := by
  rcases Attempt.of_on_bind_ok h with ⟨time, early, hnow, hwrite⟩
  have hsame := hclock s
  rw [Attempt.on_effect] at hnow
  cases hnow
  rcases Vault.of_transaction_ok hvault hwrite with ⟨hchange, hsaved, _⟩
  rw [hsame.database] at hchange
  rw [hsame.saved] at hsaved
  exact ⟨_, hchange, hsaved⟩

theorem Check.savesBy_updateTask (hvault : vault.Holds view) {clock : Clock (StateM σ)}
    (hclock : view.Still clock.now) {taskId : Int64} {status : TaskStatus} {message : String}
    (hstep : forall db time after,
      db.updateTask taskId status message time = .ok ((), after) -> Step db after) :
    view.SavesBy Step (Check.updateTask vault clock taskId status message).run := by
  apply View.savesBy_attempt_bind (View.savesBy_effect hclock.savesBy)
  intro time
  exact View.savesBy_transaction hvault fun db _ after => hstep db time after

theorem Session.savesBy_database (hvault : vault.Holds view) (session : Session) :
    view.SavesBy Step (session.database vault).run := by
  unfold Session.database
  cases session.loaded with
  | some db => exact View.savesBy_attempt_pure _
  | none =>
      exact View.savesBy_attempt_bind hvault.load_still.savesBy fun _ => View.savesBy_attempt_pure _

theorem Session.savesBy_commit (hvault : vault.Holds view) (session : Session)
    (hstep : forall (pending : Pending) db, Step db (pending.apply db)) :
    view.SavesBy Step (session.commit vault) := by
  unfold Session.commit
  split
  · exact View.savesBy_pure _
  · apply View.savesBy_bind
    · apply View.savesBy_transaction hvault
      intro db count after hchange
      cases hchange
      exact hstep session.pending db
    · intro written
      cases written with
      | ok count => exact View.savesBy_pure _
      | error fault => exact View.savesBy_pure _

end Operations

/-!
## The sweep
-/

namespace Checker

variable {checker : Checker (StateM σ)} {surveyor : Surveyor (StateM σ)}
  {Step : Database -> Database -> Prop}

theorem savesBy_fetch (hvault : checker.vault.Holds view) (session : Session) (key : ItemKey) :
    view.SavesBy Step (checker.fetch session key) := by
  unfold fetch
  cases key.kind with
  | asset =>
      apply View.savesBy_bind
      · exact View.savesBy_attempt_bind (Session.savesBy_database hvault session) fun _ =>
          View.savesBy_attempt_pure _
      · intro result
        rcases result with fault | ⟨row, next⟩
        · exact View.savesBy_pure _
        · cases row <;> exact View.savesBy_pure _
  | tileServer =>
      apply View.savesBy_bind
      · exact View.savesBy_attempt_bind (Session.savesBy_database hvault session) fun _ =>
          View.savesBy_attempt_pure _
      · intro result
        rcases result with fault | ⟨row, next⟩
        · exact View.savesBy_pure _
        · cases row <;> exact View.savesBy_pure _

theorem savesBy_failurePath (hvault : checker.vault.Holds view) (session : Session)
    (key : ItemKey) : view.SavesBy Step (checker.failurePath session key) := by
  apply View.savesBy_bind (Session.savesBy_database hvault session)
  intro result
  cases result with
  | error fault => exact View.savesBy_pure _
  | ok loaded => exact View.savesBy_pure _

theorem savesBy_process (halone : checker.Alone view) (hquiet : surveyor.storage.Quiet view)
    (provenance : Provenance) (session : Session) (caches : Caches) (key : ItemKey) :
    view.SavesBy Step (checker.process surveyor provenance session caches key) := by
  apply View.savesBy_bind halone.now.savesBy
  intro time
  apply View.savesBy_bind (savesBy_fetch halone.vault session key)
  intro fetched
  rcases fetched with ⟨fault | item, next⟩
  · exact View.savesBy_pure _
  · apply View.savesBy_bind (Surveyor.savesBy_treat hquiet provenance item time caches)
    intro treated
    rcases treated with ⟨failure | verdict, bench⟩ <;> exact View.savesBy_pure _

theorem savesBy_sweepItem (halone : checker.Alone view) (hquiet : surveyor.storage.Quiet view)
    (provenance : Provenance) (sweep : Sweep) (key : ItemKey) :
    view.SavesBy Step (checker.sweepItem surveyor provenance sweep key) := by
  apply View.savesBy_bind (savesBy_process halone hquiet provenance _ _ key)
  intro processed
  rcases processed with ⟨fault | _, session, caches⟩
  · exact View.savesBy_bind (savesBy_failurePath halone.vault session key) fun _ =>
      View.savesBy_pure _
  · exact View.savesBy_pure _

variable {setup : Setup}

theorem savesBy_publish (halone : checker.Alone view) (sweep : Sweep) :
    view.SavesBy (Database.SweepStep setup.project.id setup.run.taskId)
      (checker.publish setup sweep).run := by
  apply View.savesBy_attempt_bind
  · apply Check.savesBy_updateRun halone.vault
    intro db run after h
    exact .counted (fun run => ⟨run.totalItems, _, _, rfl⟩) h
  · intro _
    cases htask : setup.run.taskId with
    | none => exact View.savesBy_attempt_pure ()
    | some taskId =>
        exact Check.savesBy_updateTask halone.vault halone.now fun db time after h =>
          .noted rfl h

theorem savesBy_closeBatch (halone : checker.Alone view) (sweep : Sweep) :
    view.SavesBy (Database.SweepStep setup.project.id setup.run.taskId)
      (checker.closeBatch setup sweep) := by
  apply View.savesBy_bind (Session.savesBy_commit halone.vault sweep.session fun pending db =>
    .moved db pending)
  intro committed
  rcases committed with ⟨fault | count, session⟩
  · exact View.savesBy_pure _
  · exact View.savesBy_bind (savesBy_publish halone _) fun _ => View.savesBy_pure _

theorem savesBy_sweepAll (halone : checker.Alone view) (hquiet : surveyor.storage.Quiet view)
    (keys : List ItemKey) (sweep : Sweep) :
    view.SavesBy (Database.SweepStep setup.project.id setup.run.taskId)
      (checker.sweepAll surveyor setup keys sweep) := by
  induction keys generalizing sweep with
  | nil => exact View.savesBy_pure _
  | cons key rest ih =>
      apply View.savesBy_bind (savesBy_sweepItem halone hquiet _ sweep key)
      intro next
      split
      · apply View.savesBy_bind (savesBy_closeBatch halone next)
        intro closed
        rcases closed with ⟨fault | _, after⟩
        · exact View.savesBy_pure _
        · exact ih after
      · exact ih next

theorem savesBy_announce (halone : checker.Alone view) :
    view.SavesBy (Database.SweepStep setup.project.id setup.run.taskId)
      (checker.announce setup).run := by
  apply View.savesBy_attempt_bind
  · apply Check.savesBy_updateRun halone.vault
    intro db run after h
    exact .counted (fun run => ⟨_, _, _, rfl⟩) h
  · intro _
    cases htask : setup.run.taskId with
    | none =>
        exact View.savesBy_attempt_bind (View.savesBy_attempt_pure ()) fun _ =>
          (halone.trail _).savesBy
    | some taskId =>
        exact View.savesBy_attempt_bind
          (Check.savesBy_updateTask halone.vault halone.now fun db time after h => .noted rfl h)
          fun _ => (halone.trail _).savesBy

/-!
## The end
-/

theorem savesBy_proclaim (halone : checker.Alone view) {projectId : Int64} {run : Run}
    {failed : UInt64} {message : String}
    (hstep : forall db id time after, run.taskId = some id ->
      db.updateTask id .completed message time = .ok ((), after) -> Step db after) :
    view.SavesBy Step (checker.proclaim projectId run failed message).run := by
  have htrail : forall event, view.SavesBy Step
      (do let _ <- (checker.trail.append event).outcome : Attempt (StateM σ) Unit).run :=
    fun event => View.savesBy_attempt_bind (View.savesBy_outcome (halone.trail event).savesBy)
      fun _ => View.savesBy_attempt_pure ()
  unfold proclaim
  cases htask : run.taskId with
  | none => exact htrail _
  | some taskId =>
      apply View.savesBy_attempt_bind
      · exact View.savesBy_outcome (Check.savesBy_updateTask halone.vault halone.now
          fun db time after h => hstep db taskId time after htask h)
      · exact fun _ => htrail _

theorem follows_finish (halone : checker.Alone view) (sweep : Sweep) {s : σ}
    (h : (view.database s).Owned setup.project.id setup.run.taskId) :
    view.Follows (Database.CheckStep setup.project.id setup.run.taskId) s
      ((checker.finish setup sweep).on s).2 := by
  have hcommit : view.Follows (Database.SweepStep setup.project.id setup.run.taskId) s
      (Attempt.on (ExceptT.mk do return (<- sweep.session.commit checker.vault).1) s).2 :=
    Session.savesBy_commit halone.vault sweep.session (fun pending db => .moved db pending) s
  have hkept := (hcommit.keeps h fun _ _ howned hstep =>
    ⟨hstep.owned howned, Database.CheckStep.sweepStep hstep⟩)
  apply View.follows_attempt_bind hkept.2
  intro count between hcommitted
  rw [hcommitted] at hkept
  apply View.follows_attempt_bind (.of_same (halone.now between))
  intro time early hnow
  have hclock := halone.now between
  change view.Same between ((Attempt.effect checker.clock.now).on between).2 at hclock
  rw [hnow] at hclock
  have howned : (view.database early).Owned setup.project.id setup.run.taskId := by
    rw [hclock.database]
    exact hkept.1.database
  apply View.follows_attempt_bind
  · apply Check.savesBy_updateRun halone.vault
    intro db run after h
    exact .ended (fun run => ⟨time, run.totalItems, _, _, rfl⟩) h
  · intro run ended hupdate
    have hrun := (howned.updateRun (Vault.of_transaction_ok halone.vault hupdate).1
      (fun _ => rfl) (fun _ => rfl)).1
    rw [← hrun]
    exact View.savesBy_attempt_bind
      (savesBy_proclaim halone fun db id time after hid h => .closed hid rfl h)
      (fun _ => View.savesBy_attempt_pure _) ended

theorem savesBy_fail (halone : checker.Alone view) (projectId : Int64) (run : Option Run)
    (fault : Fault) :
    view.SavesBy (Database.CheckStep projectId (run.bind Run.taskId))
      (checker.fail projectId run fault).run := by
  have hcomplete : view.SavesBy (Database.CheckStep projectId (run.bind Run.taskId))
      (Check.complete checker.vault checker.clock projectId).run := by
    apply View.savesBy_attempt_bind (View.savesBy_effect halone.now.savesBy)
    intro time
    apply Check.savesBy_updateRun halone.vault
    intro db run after h
    exact .ended (fun run => ⟨time, run.totalItems, run.itemsChecked, run.itemsFailed, rfl⟩) h
  apply View.savesBy_attempt_bind
  · cases run with
    | none => exact View.savesBy_attempt_pure none
    | some run =>
        apply View.savesBy_within
        apply View.savesBy_attempt_bind hcomplete
        intro updated
        cases htask : run.taskId with
        | none => exact View.savesBy_attempt_pure _
        | some taskId =>
            apply View.savesBy_attempt_bind
            · exact Check.savesBy_updateTask halone.vault halone.now fun db time after h =>
                .closed htask rfl h
            · exact fun _ => View.savesBy_attempt_pure _
  · intro persisted
    exact View.savesBy_attempt_bind (View.savesBy_outcome (halone.trail _).savesBy) fun _ =>
      View.savesBy_attempt_pure _

/-!
## Whole checks
-/

/-- How a check comes to its end when it is through with its items: its run could not
even be read, or it failed, or all items were gone through. -/
inductive Concludes (checker : Checker (StateM σ)) (origin : Database)
    (projectId userId : Int64) : σ -> Except Fault CheckOutcome -> σ -> Prop
  | unread {s : σ} {fault : Fault} (hfault : checker.vault.Unread fault) :
      Concludes checker origin projectId userId s (.error fault) s
  | failed {s after : σ} {fault : Fault} {result : Except Fault CheckOutcome}
      (hfail : (checker.fail projectId (origin.runOf? projectId) fault).on s = (result, after)) :
      Concludes checker origin projectId userId s result after
  | unfinished {s between after : σ} {setup : Setup} {sweep : Sweep} {fault : Fault}
      {result : Except Fault CheckOutcome} (hsetup : origin.setup projectId userId = .ok setup)
      (hfinish : (checker.finish setup sweep).on s = (.error fault, between))
      (hfail : (checker.fail projectId (origin.runOf? projectId) fault).on between =
        (result, after)) :
      Concludes checker origin projectId userId s result after
  | finished {s after : σ} {setup : Setup} {sweep : Sweep} {outcome : CheckOutcome}
      (hsetup : origin.setup projectId userId = .ok setup)
      (hfinish : (checker.finish setup sweep).on s = (.ok outcome, after)) :
      Concludes checker origin projectId userId s (.ok outcome) after

end Checker

/-- A way to connect that leaves the database alone, and so do the storages that it
gives. -/
structure ConnectsQuietly (connect : String -> Attempt (StateM σ) (Storage (StateM σ)))
    (view : View σ ω) : Prop where
  still : forall token, view.Still (connect token).run
  quiet : forall token s storage, ((connect token).on s).1 = .ok storage -> storage.Quiet view

theorem Connects.quietly {connect : String -> Attempt (StateM σ) (Storage (StateM σ))}
    {remote : Storage (StateM ω)} (h : Connects connect view remote) :
    ConnectsQuietly connect view where
  still := h.still
  quiet := fun token s storage hok => (h.acts token s storage hok).quiet

namespace Checker

variable {checker : Checker (StateM σ)}
  {connect : String -> Attempt (StateM σ) (Storage (StateM σ))}

theorem carryOut_phases (halone : checker.Alone view)
    (hquietly : ConnectsQuietly connect view) (setup : Setup)
    (externalIds : OrderedMap String (Option String)) (s : σ) :
    exists result known mid after,
      (checker.carryOut setup externalIds connect).run s = ((result, known), after) ∧
      view.Follows (Database.SweepStep setup.project.id setup.run.taskId) s mid ∧
      ((exists fault, result = .error fault ∧ after = mid) ∨
        exists sweep, (checker.finish setup sweep).on mid = (result, after)) := by
  have hprepare : view.Follows (Database.SweepStep setup.project.id setup.run.taskId) s
      ((checker.prepare setup connect).on s).2 := by
    apply View.follows_attempt_bind (savesBy_announce halone s)
    intro _ between _
    exact (hquietly.still setup.token).savesBy between
  have hstorage : forall storage after,
      (checker.prepare setup connect).on s = (.ok storage, after) -> storage.Quiet view := by
    intro storage after hon
    rcases Attempt.of_on_bind_ok hon with ⟨_, between, _, hconnect⟩
    exact hquietly.quiet setup.token between storage (congrArg Prod.fst hconnect)
  rcases hon : (checker.prepare setup connect).on s with ⟨prepared, ready⟩
  rw [hon] at hprepare
  unfold carryOut
  rw [View.run_bind_of_eq hon]
  cases prepared with
  | error fault => exact ⟨_, _, ready, ready, rfl, hprepare, Or.inl ⟨fault, rfl, rfl⟩⟩
  | ok storage =>
      have hquiet : (checker.surveyor storage).storage.Quiet view := hstorage storage ready hon
      have hsweep : view.Follows (Database.SweepStep setup.project.id setup.run.taskId) ready
          ((checker.sweepAll (checker.surveyor storage) setup setup.work
            (.start externalIds)).run ready).2 :=
        savesBy_sweepAll halone hquiet setup.work _ ready
      rcases hrun : (checker.sweepAll (checker.surveyor storage) setup setup.work
        (.start externalIds)).run ready with ⟨⟨swept, sweep⟩, mid⟩
      rw [hrun] at hsweep
      dsimp only
      rw [View.run_bind_of_eq hrun]
      cases swept with
      | error fault =>
          exact ⟨_, _, mid, mid, rfl, hprepare.trans hsweep, Or.inl ⟨fault, rfl, rfl⟩⟩
      | ok _ =>
          exact ⟨_, _, mid, _, rfl, hprepare.trans hsweep, Or.inr ⟨sweep, rfl⟩⟩

theorem carryOut_sweeps (halone : checker.Alone view) (hquietly : ConnectsQuietly connect view)
    {projectId userId : Int64} (externalIds : OrderedMap String (Option String))
    {owner : Option Int64} {setup : Setup} {s early : σ}
    (hfiled : (view.database s).Filed projectId)
    (howned : (view.database s).Owned projectId owner) (hsame : view.Same s early)
    (hsetup : (view.database s).setup projectId userId = .ok setup) :
    exists result known mid after,
      (checker.carryOut setup externalIds connect).run early = ((result, known), after) ∧
      view.Follows (Database.SweepStep projectId owner) s mid ∧
      ((exists fault, result = .error fault ∧ after = mid) ∨
        exists sweep, (checker.finish setup sweep).on mid = (result, after)) := by
  rcases Database.of_setup_eq_ok hsetup with ⟨hproject, _, hrun, _⟩
  rcases carryOut_phases halone hquietly setup externalIds early with
    ⟨result, known, mid, after, hcarry, hfollows, hend⟩
  rw [hfiled _ hproject, howned _ hrun] at hfollows
  exact ⟨result, known, mid, after, hcarry, (View.Follows.of_same hsame).trans hfollows, hend⟩

/-- A check sweeps for a while and then concludes. -/
theorem conduct_phases (halone : checker.Alone view) (hquietly : ConnectsQuietly connect view)
    (projectId userId : Int64) (externalIds : OrderedMap String (Option String)) {s : σ}
    {owner : Option Int64} (hfiled : (view.database s).Filed projectId)
    (howned : (view.database s).Owned projectId owner) :
    exists result known mid after,
      (checker.conduct projectId userId externalIds connect).run s = ((result, known), after) ∧
      view.Follows (Database.SweepStep projectId owner) s mid ∧
      checker.Concludes (view.database s) projectId userId mid result after := by
  rcases conduct_cases halone.vault connect projectId userId externalIds s with
    ⟨result, known, after, hrun, hconducted⟩
  cases hconducted with
  | unread hfault hsame => exact ⟨_, _, after, after, hrun, .of_same hsame, .unread hfault⟩
  | unprepared hsame hfail =>
      exact ⟨_, _, _, after, hrun, .of_same hsame, .failed hfail⟩
  | carried hsame hsetup hcarry =>
      rcases carryOut_sweeps halone hquietly externalIds hfiled howned hsame hsetup with
        ⟨_, _, mid, _, hcarry', hfollows, hend⟩
      rw [hcarry] at hcarry'
      cases hcarry'
      rcases hend with ⟨_, hok, _⟩ | ⟨sweep, hfinish⟩
      · cases hok
      · exact ⟨_, _, mid, after, hrun, hfollows, .finished hsetup hfinish⟩
  | broken hsame hsetup hcarry hfail =>
      rcases carryOut_sweeps halone hquietly externalIds hfiled howned hsame hsetup with
        ⟨_, _, mid, _, hcarry', hfollows, hend⟩
      rw [hcarry] at hcarry'
      cases hcarry'
      rcases hend with ⟨_, _, rfl⟩ | ⟨sweep, hfinish⟩
      · exact ⟨_, _, _, after, hrun, hfollows, .failed hfail⟩
      · exact ⟨_, _, mid, after, hrun, hfollows, .unfinished hsetup hfinish hfail⟩

theorem Concludes.follows (halone : checker.Alone view) {origin : Database}
    {projectId userId : Int64} {s after : σ} {result : Except Fault CheckOutcome}
    (h : checker.Concludes origin projectId userId s result after)
    (hfiled : origin.Filed projectId)
    (howned : (view.database s).Owned projectId ((origin.runOf? projectId).bind Run.taskId)) :
    view.Follows (Database.CheckStep projectId ((origin.runOf? projectId).bind Run.taskId))
      s after := by
  have hfail : forall fault before result after,
      (checker.fail projectId (origin.runOf? projectId) fault).on before = (result, after) ->
        view.Follows (Database.CheckStep projectId ((origin.runOf? projectId).bind Run.taskId))
          before after := by
    intro fault before result after hon
    have hfollows : view.Follows
        (Database.CheckStep projectId ((origin.runOf? projectId).bind Run.taskId)) before
        ((checker.fail projectId (origin.runOf? projectId) fault).on before).2 :=
      savesBy_fail halone projectId (origin.runOf? projectId) fault before
    rw [hon] at hfollows
    exact hfollows
  have hfinish : forall setup sweep result after,
      origin.setup projectId userId = .ok setup ->
      (checker.finish setup sweep).on s = (result, after) ->
        view.Follows (Database.CheckStep projectId ((origin.runOf? projectId).bind Run.taskId))
          s after := by
    intro setup sweep result after hsetup hon
    rcases Database.of_setup_eq_ok hsetup with ⟨hproject, _, hrun, _⟩
    have hid : setup.project.id = projectId := hfiled _ hproject
    rw [hrun, ← hid] at howned ⊢
    have hfollows := follows_finish halone sweep howned
    rw [hon] at hfollows
    exact hfollows
  cases h with
  | unread hfault => exact .of_same (View.Same.refl s)
  | failed hon => exact hfail _ _ _ _ hon
  | unfinished hsetup hon hon' =>
      exact (hfinish _ _ _ _ hsetup hon).trans (hfail _ _ _ _ hon')
  | finished hsetup hon => exact hfinish _ _ _ _ hsetup hon

/-- Whatever becomes of a check, all that it writes are steps of a check of its project, whose
run has its task. -/
theorem conduct_follows (halone : checker.Alone view) (hquietly : ConnectsQuietly connect view)
    (projectId userId : Int64) (externalIds : OrderedMap String (Option String)) (s : σ)
    (hfiled : (view.database s).Filed projectId) :
    view.Follows
      (Database.CheckStep projectId (((view.database s).runOf? projectId).bind Run.taskId)) s
      ((checker.conduct projectId userId externalIds connect).run s).2 := by
  have howned := (view.database s).owned_runOf? projectId
  rcases conduct_phases halone hquietly projectId userId externalIds hfiled howned with
    ⟨result, known, mid, after, hrun, hsweepSteps, hconcludes⟩
  rcases hsweepSteps.keeps howned (fun _ _ howned hstep =>
    ⟨hstep.owned howned, Database.CheckStep.sweepStep hstep⟩) with ⟨hkept, hfollows⟩
  rw [hrun]
  exact hfollows.trans (hconcludes.follows halone hfiled hkept.database)

end Checker
end Whereabouts
