import Whereabouts.Proofs.MemoryWorld
import Whereabouts.Proofs.Progress

/-!
# Endings

No check leaves its run open.  Whatever goes wrong after the run was found ends it as
failed, and what comes after a run has ended cannot change its outcome any more.  Only a
task that is not there can keep a check from reporting how it ended.
-/

namespace Whereabouts

variable {σ ω α β : Type} {view : View σ ω}

/-- How a check leaves the run of its project, and the task of the run. -/
structure Ended (projectId : Int64) (run : Run) (result : Except Fault CheckOutcome)
    (before after : Database) : Prop where
  ended : exists last, after.runOf? projectId = some last ∧ last.completedAt.isSome = true
  status : forall outcome, result = .ok outcome ->
    outcome.status = .completed ∨ outcome.status = .failed
  task : forall outcome id, result = .ok outcome -> run.taskId = some id ->
    exists task, after.tasks.get? id = some task ∧ task.status = outcome.status ∧
      task.latestMessage = some outcome.message
  counters : forall outcome, result = .ok outcome -> outcome.status = .failed ->
    exists last, after.runOf? projectId = some last ∧ outcome.Reports last
  fault : forall fault, result = .error fault ->
    exists id, run.taskId = some id ∧ before.tasks.get? id = none

theorem TaskStatus.of_isTerminal {status : TaskStatus} (h : status.isTerminal = true) :
    status = .completed ∨ status = .failed := by
  cases status with
  | queued | running => cases h
  | completed => exact Or.inl rfl
  | failed => exact Or.inr rfl

/-!
## Checks without their task
-/

theorem View.Follows.sameButCheck {projectId : Int64} {taskId : Option Int64} {s after : σ}
    (h : view.Follows (Database.SweepStep projectId taskId) s after) :
    Database.SameButCheck projectId taskId (view.database s) (view.database after) :=
  h.closed (.refl _) fun _ _ hx hstep => hx.trans hstep.sameButCheck

namespace Checker

variable {checker : Checker (StateM σ)} {setup : Setup} {projectId userId : Int64} {s : σ}
  {connect : String -> Attempt (StateM σ) (Storage (StateM σ))}
  {externalIds : OrderedMap String (Option String)}

theorem fail_refused (halone : checker.Alone view) (hreliable : checker.vault.Reliable)
    {key id : Int64} {run stored : Run} (fault : Fault)
    (hentry : Database.runEntry? (view.database s) projectId = some (key, stored))
    (hid : run.taskId = some id) (hmissing : (view.database s).tasks.get? id = none) :
    exists fault' after, (checker.fail projectId (some run) fault).on s = (.error fault', after) ∧
      exists last, (view.database after).runOf? projectId = some last ∧
        last.completedAt.isSome = true := by
  rcases persistFailure_persists halone hreliable run (checker.failureMessage fault) hentry with
    ⟨result, after, hpersist, hpersists⟩
  cases hpersists with
  | alone _ _ htask =>
      rw [hid] at htask
      cases htask
  | both _ _ htask hget =>
      rw [hid] at htask
      cases htask
      rw [hmissing] at hget
      cases hget
  | taskless hrun _ _ _ hsame =>
      rcases Database.of_updateRun_endedAt hrun with ⟨⟨run, _, rfl⟩, hlast⟩
      rw [← hsame.database] at hlast
      exact ⟨_, after, fail_of_unpersisted hpersist, _, hlast, rfl⟩

theorem conduct_of_setup_error {existing : Option Run} {early ready final : σ} {fault : Fault}
    {result : Except Fault CheckOutcome}
    (hrun : (Check.run? checker.vault projectId).on s = (.ok existing, early))
    (hread : (checker.readSetup projectId userId).on early = (.error fault, ready))
    (hfail : (checker.fail projectId existing fault).on ready = (result, final)) :
    (checker.conduct projectId userId externalIds connect).run s =
      ((result, externalIds), final) := by
  unfold conduct
  rw [View.run_bind_of_eq hrun]
  dsimp only
  rw [View.run_bind_of_eq hread]
  exact View.run_bind_of_eq hfail

theorem conduct_of_announce_error {existing : Option Run} {early ready between final : σ}
    {fault : Fault} {result : Except Fault CheckOutcome}
    (hrun : (Check.run? checker.vault projectId).on s = (.ok existing, early))
    (hread : (checker.readSetup projectId userId).on early = (.ok setup, ready))
    (hannounce : (checker.announce setup).on ready = (.error fault, between))
    (hfail : (checker.fail projectId existing fault).on between = (result, final)) :
    (checker.conduct projectId userId externalIds connect).run s =
      ((result, externalIds), final) := by
  have hprepare : (checker.prepare setup connect).on ready = (.error fault, between) :=
    Attempt.on_bind_of_error hannounce
  have hcarry : (checker.carryOut setup externalIds connect).run ready =
      ((.error fault, externalIds), between) := View.run_bind_of_eq hprepare
  unfold conduct
  rw [View.run_bind_of_eq hrun]
  dsimp only
  rw [View.run_bind_of_eq hread]
  dsimp only
  rw [View.run_bind_of_eq hcarry]
  exact View.run_bind_of_eq hfail

/-!
## The start
-/

/-- The counters start at zero, and the task says so. -/
def enrol {m : Type -> Type} [Monad m] (checker : Checker m) (setup : Setup) :
    Attempt m Unit := do
  let total := UInt64.ofNat setup.work.length
  let _ <- Check.updateRun checker.vault setup.project.id fun run =>
    { run with totalItems := total, itemsChecked := 0, itemsFailed := 0 }
  match setup.run.taskId with
  | some taskId =>
      Check.updateTask checker.vault checker.clock taskId .running
        ("Checking " ++ countText total ++ " files for public availability")
  | none => pure ()

def startEvent (setup : Setup) : AuditEvent where
  phase := "check"
  status := "started"
  projectId := some setup.project.id
  message := countText (UInt64.ofNat setup.work.length) ++ " items"

/-- What a check does before the trail is told of its start. -/
def checkIn {m : Type -> Type} [Monad m] (checker : Checker m) (projectId userId : Int64) :
    Attempt m Setup := do
  let _ <- Check.run? checker.vault projectId
  let setup <- checker.readSetup projectId userId
  checker.enrol setup
  return setup

theorem announce_eq (checker : Checker (StateM σ)) (setup : Setup) :
    checker.announce setup =
      (checker.enrol setup >>= fun _ => checker.trail.append (startEvent setup)) := by
  unfold announce enrol
  rw [bind_assoc]
  cases setup.run.taskId <;> rfl

theorem enrol_refused (halone : checker.Alone view) (hreliable : checker.vault.Reliable)
    {key id : Int64} {stored : Run}
    (hentry : Database.runEntry? (view.database s) setup.project.id = some (key, stored))
    (hid : setup.run.taskId = some id) (hmissing : (view.database s).tasks.get? id = none) :
    exists fault after, (checker.enrol setup).on s = (.error fault, after) := by
  let reset (run : Run) : Run := { run with
    totalItems := UInt64.ofNat setup.work.length, itemsChecked := 0, itemsFailed := 0 }
  rcases Check.updateRun_succeeds halone.vault hreliable reset hentry with
    ⟨between, hupdate, hchange, _⟩
  rcases Database.of_updateRun_eq_ok hchange with ⟨_, _, _, _, htasks, _⟩
  rw [← htasks] at hmissing
  rcases Check.updateTask_refused halone.vault hreliable halone.now .running
    ("Checking " ++ countText (UInt64.ofNat setup.work.length)
      ++ " files for public availability") hmissing with ⟨after, hrefused, _⟩
  refine ⟨.missingTask id, after, (Attempt.on_bind_of_ok hupdate).trans ?_⟩
  rw [hid]
  exact hrefused

/-- A check whose run belongs to a task that is not there ends the run, with a fault. -/
theorem conduct_without_task (halone : checker.Alone view) (hreliable : checker.vault.Reliable)
    (connect : String -> Attempt (StateM σ) (Storage (StateM σ))) (userId : Int64)
    (externalIds : OrderedMap String (Option String))
    (hfiled : (view.database s).Filed projectId) {run : Run} {id : Int64}
    (hrun : (view.database s).runOf? projectId = some run) (hid : run.taskId = some id)
    (hmissing : (view.database s).tasks.get? id = none) :
    exists fault known after,
      (checker.conduct projectId userId externalIds connect).run s =
        ((.error fault, known), after) ∧
      exists last, (view.database after).runOf? projectId = some last ∧
        last.completedAt.isSome = true := by
  rcases Database.runOf?_eq_some_iff.mp hrun with ⟨key, hentry⟩
  rcases Vault.snapshot_cases halone.vault s with
    ⟨loaded, early, hloaded, hsame, ⟨fault, hfault, _⟩ | hresult⟩
  · exact absurd hfault (hreliable.readable fault)
  subst hresult
  have hread : (Check.run? checker.vault projectId).on s = (.ok (some run), early) := by
    refine (Attempt.on_bind_of_ok hloaded).trans ?_
    rw [hrun]
    rfl
  rcases readSetup_cases halone.vault projectId userId early with
    ⟨read, ready, hsetup, hsame', hcases⟩
  have hquiet := hsame.trans hsame'
  rw [← hquiet.database] at hentry hmissing
  cases read with
  | error fault =>
      rcases fail_refused halone hreliable fault hentry hid hmissing with
        ⟨fault', after, hfail, hended⟩
      exact ⟨fault', _, after, conduct_of_setup_error hread hsetup hfail, hended⟩
  | ok setup =>
      have hfound := hcases setup rfl
      rw [hsame.database] at hfound
      rcases Database.of_setup_eq_ok hfound with ⟨hproject, _, hsetupRun, _⟩
      have hproject' : setup.project.id = projectId := hfiled _ hproject
      rw [hrun] at hsetupRun
      cases hsetupRun
      have hentry' := hentry
      rw [← hproject'] at hentry'
      rcases enrol_refused halone hreliable hentry' hid hmissing with
        ⟨fault, between, hrefused⟩
      have hannounce : (checker.announce setup).on ready = (.error fault, between) := by
        rw [announce_eq]
        exact Attempt.on_bind_of_error hrefused
      have hfollows : view.Follows (Database.SweepStep setup.project.id setup.run.taskId) ready
          ((checker.announce setup).on ready).2 := savesBy_announce halone ready
      rw [hannounce, hproject'] at hfollows
      have hsameBut := hfollows.sameButCheck
      rcases hsameBut.runEntry? hentry with ⟨stored, hstored, _⟩
      have hgone : (view.database between).tasks.get? id = none := by
        cases htask : (view.database between).tasks.get? id with
        | none => rfl
        | some task =>
            rcases hsameBut.of_task? htask with ⟨old, hold, _⟩
            rw [hmissing] at hold
            cases hold
      rcases fail_refused halone hreliable fault hstored hid hgone with
        ⟨fault', after, hfail, hended⟩
      exact ⟨fault', _, after, conduct_of_announce_error hread hsetup hannounce hfail, hended⟩

theorem conduct_of_start_error (halone : checker.Alone view) (hreliable : checker.vault.Reliable)
    (connect : String -> Attempt (StateM σ) (Storage (StateM σ)))
    (externalIds : OrderedMap String (Option String))
    (hfiled : (view.database s).Filed projectId) {run : Run}
    (hrun : (view.database s).runOf? projectId = some run) {ready : σ} {fault : Fault}
    (hcheckIn : (checker.checkIn projectId userId).on s = (.ok setup, ready))
    (hstart : ((checker.trail.append (startEvent setup)).on ready).1 = .error fault) :
    exists outcome after,
      (checker.conduct projectId userId externalIds connect).run s =
        ((.ok outcome, externalIds), after) ∧ outcome.status = .failed := by
  rcases Attempt.of_on_bind_ok hcheckIn with ⟨found, early, hread, hrest⟩
  rcases Attempt.of_on_bind_ok hrest with ⟨setup', between, hsetup, hrest⟩
  rcases Attempt.of_on_bind_ok hrest with ⟨_, _, henrol, hpure⟩
  cases hpure
  rcases of_run?_ok halone.vault hread with ⟨hfound, hsame⟩
  rcases readSetup_cases halone.vault projectId userId early with
    ⟨_, _, hsetup', hsame', hcases⟩
  rw [hsetup] at hsetup'
  cases hsetup'
  have hquiet := hsame.trans hsame'
  have hsetupOf := hcases setup rfl
  rw [hsame.database] at hsetupOf
  rcases Database.of_setup_eq_ok hsetupOf with ⟨hproject, _, hsetupRun, _⟩
  have hproject' : setup.project.id = projectId := hfiled _ hproject
  rw [hrun] at hfound hsetupRun
  cases hsetupRun
  subst hfound
  rcases Database.runOf?_eq_some_iff.mp hrun with ⟨key, hentry⟩
  rw [← hquiet.database] at hentry
  have hrunAndTask : (view.database between).HasRunAndTask projectId setup.run.taskId := by
    refine ⟨⟨key, _, hentry, rfl⟩, ?_⟩
    intro id hid
    cases htask : (view.database between).tasks.get? id with
    | some task => exact ⟨task, rfl⟩
    | none =>
        rw [← hproject'] at hentry
        rcases enrol_refused halone hreliable hentry hid htask with ⟨_, _, hrefused⟩
        rw [hrefused] at henrol
        cases henrol
  rcases happend : (checker.trail.append (startEvent setup)).on ready with ⟨result, told⟩
  rw [happend] at hstart
  cases hstart
  have hannounce : (checker.announce setup).on between = (.error fault, told) := by
    rw [announce_eq]
    exact (Attempt.on_bind_of_ok henrol).trans happend
  have hfollows : view.Follows (Database.SweepStep setup.project.id setup.run.taskId) between
      ((checker.announce setup).on between).2 := savesBy_announce halone between
  rw [hannounce, hproject'] at hfollows
  rcases fail_succeeds halone hreliable fault (hfollows.hasRunAndTask hrunAndTask) with
    ⟨outcome, after, hfail, hstatus, _⟩
  exact ⟨outcome, after, conduct_of_announce_error hread hsetup hannounce hfail, hstatus⟩

/-!
## Trails
-/

/-- Two attempts that differ in nothing but the state of the world after they succeed. -/
def Concurs (x y : Attempt (StateM σ) α) : Prop :=
  forall s, x.on s = y.on s ∨ exists a, (x.on s).1 = .ok a ∧ (y.on s).1 = .ok a

theorem Concurs.bind (x : Attempt (StateM σ) α) {f g : α -> Attempt (StateM σ) β}
    (h : forall a, Concurs (f a) (g a)) : Concurs (x >>= f) (x >>= g) := by
  intro s
  rcases hx : x.on s with ⟨result, between⟩
  cases result with
  | error fault =>
      rw [Attempt.on_bind_of_error hx, Attempt.on_bind_of_error hx]
      exact Or.inl rfl
  | ok a =>
      rw [Attempt.on_bind_of_ok hx, Attempt.on_bind_of_ok hx]
      exact h a between

theorem concurs_return {x y : Attempt (StateM σ) α}
    (hx : forall s, exists a, (x.on s).1 = .ok a) (hy : forall s, exists a, (y.on s).1 = .ok a)
    (b : β) : Concurs (x >>= fun _ => pure b) (y >>= fun _ => pure b) := by
  have hreturn : forall z : Attempt (StateM σ) α, (forall s, exists a, (z.on s).1 = .ok a) ->
      forall s, ((z >>= fun _ => pure b : Attempt (StateM σ) β).on s).1 = .ok b := by
    intro z hz s
    rcases hz s with ⟨a, ha⟩
    rcases hon : z.on s with ⟨result, after⟩
    rw [hon] at ha
    cases ha
    rw [Attempt.on_bind_of_ok hon]
    rfl
  exact fun s => Or.inr ⟨b, hreturn x hx s, hreturn y hy s⟩

theorem Concurs.fst_eq {x y : Attempt (StateM σ) α} (h : Concurs x y) (s : σ) :
    (x.on s).1 = (y.on s).1 := by
  rcases h s with hsame | ⟨a, hx, hy⟩
  · rw [hsame]
  · rw [hx, hy]

section Trails

variable {trail : Trail (StateM σ)}

theorem concurs_fail (run : Option Run) (fault : Fault) :
    Concurs (Checker.fail { checker with trail } projectId run fault)
      (checker.fail projectId run fault) :=
  Concurs.bind _ fun _ => concurs_return (fun _ => ⟨_, rfl⟩) (fun _ => ⟨_, rfl⟩) _

theorem proclaim_ok (checker : Checker (StateM σ)) (projectId : Int64) (run : Run)
    (failed : UInt64) (message : String) (s : σ) :
    ((checker.proclaim projectId run failed message).on s).1 = .ok () := by
  unfold proclaim
  cases run.taskId <;> rfl

theorem concurs_finish (sweep : Sweep) :
    Concurs (Checker.finish { checker with trail } setup sweep) (checker.finish setup sweep) :=
  Concurs.bind _ fun _ => Concurs.bind _ fun _ => Concurs.bind _ fun run =>
    concurs_return (fun s => ⟨(), proclaim_ok _ _ run _ _ s⟩)
      (fun s => ⟨(), proclaim_ok _ _ run _ _ s⟩) _

theorem sweepAll_trail {surveyor : Surveyor (StateM σ)} (keys : List ItemKey) (sweep : Sweep) :
    Checker.sweepAll { checker with trail } surveyor setup keys sweep =
      checker.sweepAll surveyor setup keys sweep := by
  induction keys generalizing sweep with
  | nil => rfl
  | cons key rest ih =>
      unfold sweepAll
      simp only [ih]
      rfl

theorem prepare_trail
    (hstart : trail.append (startEvent setup) = checker.trail.append (startEvent setup)) :
    Checker.prepare { checker with trail } setup connect = checker.prepare setup connect := by
  unfold prepare
  rw [announce_eq, announce_eq]
  dsimp only
  rw [hstart]
  rfl

theorem carryOut_trail
    (connect : String -> Attempt (StateM σ) (Storage (StateM σ)))
    (externalIds : OrderedMap String (Option String))
    (hstart : trail.append (startEvent setup) = checker.trail.append (startEvent setup))
    (s : σ) :
    (Checker.carryOut { checker with trail } setup externalIds connect).run s =
        (checker.carryOut setup externalIds connect).run s ∨
      exists outcome known,
        ((Checker.carryOut { checker with trail } setup externalIds connect).run s).1 =
          (.ok outcome, known) ∧
        ((checker.carryOut setup externalIds connect).run s).1 = (.ok outcome, known) := by
  unfold carryOut
  rw [prepare_trail hstart]
  rcases hprepare : (checker.prepare setup connect).on s with ⟨prepared, ready⟩
  rw [View.run_bind_of_eq hprepare, View.run_bind_of_eq hprepare]
  cases prepared with
  | error fault => exact Or.inl rfl
  | ok storage =>
      dsimp only
      rw [sweepAll_trail]
      rcases hsweep : (checker.sweepAll (checker.surveyor storage) setup setup.work
        (.start externalIds)).run ready with ⟨⟨swept, sweep⟩, mid⟩
      have hsweep' : (checker.sweepAll (Checker.surveyor { checker with trail } storage) setup
        setup.work (.start externalIds)).run ready = ((swept, sweep), mid) := hsweep
      rw [View.run_bind_of_eq hsweep, View.run_bind_of_eq hsweep']
      cases swept with
      | error fault => exact Or.inl rfl
      | ok _ =>
          have hfinish : Concurs (Checker.finish { checker with trail } setup sweep)
            (checker.finish setup sweep) := concurs_finish sweep
          rcases hfinish mid with hsame | ⟨outcome, hok', hok⟩
          · left
            rcases hon : (checker.finish setup sweep).on mid with ⟨result, after⟩
            rw [hon] at hsame
            dsimp only
            rw [View.run_bind_of_eq hon, View.run_bind_of_eq hsame]
          · exact Or.inr ⟨outcome, sweep.caches.externalIds,
              congrArg (·, sweep.caches.externalIds) hok',
              congrArg (·, sweep.caches.externalIds) hok⟩

/-- What the trail says after the start of a check does not change its outcome. -/
theorem conduct_trail
    (hagree : forall event, event.status = "started" ->
      trail.append event = checker.trail.append event) (s : σ) :
    ((Checker.conduct { checker with trail } projectId userId externalIds connect).run s).1 =
      ((checker.conduct projectId userId externalIds connect).run s).1 := by
  have hfail : forall existing fault known t,
      ((do return (<- (Checker.fail { checker with trail } projectId existing fault).run, known) :
        StateM σ (Except Fault CheckOutcome × OrderedMap String (Option String))).run t).1 =
      ((do return (<- (checker.fail projectId existing fault).run, known) :
        StateM σ (Except Fault CheckOutcome × OrderedMap String (Option String))).run t).1 :=
    fun existing fault known t => congrArg (·, known) ((concurs_fail existing fault).fst_eq t)
  unfold conduct
  rcases hrun : (Check.run? checker.vault projectId).on s with ⟨found, early⟩
  rw [View.run_bind_of_eq hrun]
  dsimp only
  rw [View.run_bind_of_eq hrun]
  cases found with
  | error fault => rfl
  | ok existing =>
      dsimp only
      rcases hread : (checker.readSetup projectId userId).on early with ⟨read, ready⟩
      have hread' : (Checker.readSetup { checker with trail } projectId userId).on early =
          (read, ready) := hread
      rw [View.run_bind_of_eq hread, View.run_bind_of_eq hread']
      cases read with
      | error fault => exact hfail existing fault externalIds ready
      | ok setup =>
          dsimp only
          rcases hcarry : (checker.carryOut setup externalIds connect).run ready with
            ⟨⟨result, known⟩, after⟩
          rcases hcarry' : (Checker.carryOut { checker with trail } setup externalIds
            connect).run ready with ⟨⟨result', known'⟩, after'⟩
          have hcases := carryOut_trail connect externalIds (hagree (startEvent setup) rfl) ready
          rw [hcarry, hcarry'] at hcases
          rw [View.run_bind_of_eq hcarry, View.run_bind_of_eq hcarry']
          rcases hcases with hsame | ⟨outcome, reached, hok', hok⟩
          · cases hsame
            cases result with
            | error fault => exact hfail existing fault known after
            | ok outcome => rfl
          · cases hok'
            cases hok
            rfl

end Trails

/-- On a store that can be read and written no check leaves its run open, and only a run
whose task is not there keeps it from telling how it ended.  A trail that refuses to be
told of the start makes the check fail, and afterwards the trail has no say any more. -/
theorem conduct_ends (halone : checker.Alone view) (hreliable : checker.vault.Reliable)
    (hquietly : ConnectsQuietly connect view) (userId : Int64)
    (externalIds : OrderedMap String (Option String))
    (hfiled : (view.database s).Filed projectId) {run : Run}
    (hrun : (view.database s).runOf? projectId = some run) :
    exists result known after,
      (checker.conduct projectId userId externalIds connect).run s = ((result, known), after) ∧
      Ended projectId run result (view.database s) (view.database after) ∧
      (forall setup ready fault,
        (checker.checkIn projectId userId).on s = (.ok setup, ready) ->
        ((checker.trail.append (startEvent setup)).on ready).1 = .error fault ->
        exists outcome, result = .ok outcome ∧ outcome.status = .failed) ∧
      forall trail : Trail (StateM σ),
        (forall event, event.status = "started" ->
          trail.append event = checker.trail.append event) ->
        ((Checker.conduct { checker with trail } projectId userId externalIds connect).run s).1 =
          (result, known) := by
  rcases hconduct : (checker.conduct projectId userId externalIds connect).run s with
    ⟨⟨result, known⟩, after⟩
  refine ⟨result, known, after, rfl, ?_, ?_, ?_⟩
  · rcases Database.runOf?_eq_some_iff.mp hrun with ⟨key, hentry⟩
    by_cases hmissing : exists id, run.taskId = some id ∧ (view.database s).tasks.get? id = none
    · rcases hmissing with ⟨id, hid, hnone⟩
      rcases conduct_without_task halone hreliable connect userId externalIds hfiled hrun hid
        hnone with ⟨fault, _, _, hrun', hended⟩
      rw [hconduct] at hrun'
      cases hrun'
      exact ⟨hended, (fun _ h => nomatch h), (fun _ _ h => nomatch h), (fun _ h => nomatch h),
        fun _ _ => ⟨id, hid, hnone⟩⟩
    · have hs : forall id, run.taskId = some id ->
          exists task, (view.database s).tasks.get? id = some task := by
        intro id hid
        cases htask : (view.database s).tasks.get? id with
        | some task => exact ⟨task, rfl⟩
        | none => exact absurd ⟨id, hid, htask⟩ hmissing
      rcases conduct_closes halone hreliable hquietly userId externalIds hfiled hrun
        ⟨⟨key, run, hentry, rfl⟩, hs⟩ with
        ⟨outcome, _, mid, _, hrun', hterminal, hreports, _, new, _, hclosing⟩
      rw [hconduct] at hrun'
      cases hrun'
      rcases hclosing.rows with ⟨hended, htask⟩
      refine ⟨hended, ?_, ?_, ?_, fun _ h => nomatch h⟩
      · intro other h
        cases h
        exact TaskStatus.of_isTerminal hterminal
      · intro other id h hid
        cases h
        rcases htask id hid with ⟨task, hget, hstatus, hmessage, _⟩
        exact ⟨task, hget, hstatus, hmessage⟩
      · intro other h hfailed
        cases h
        exact hreports hfailed
  · intro setup ready fault hcheckIn hstart
    rcases conduct_of_start_error halone hreliable connect externalIds hfiled hrun hcheckIn
      hstart with ⟨outcome, _, hrun', hstatus⟩
    rw [hconduct] at hrun'
    cases hrun'
    exact ⟨outcome, rfl, hstatus⟩
  · intro trail hagree
    rw [conduct_trail hagree, hconduct]

end Checker

/-!
## Samples
-/

namespace Sample

theorem checker_reliable : checker.vault.Reliable :=
  MemoryWorld.vault_reliable

def withTask : MemoryWorld Unit :=
  { memory with
    database := { database with
      runs := .ofList [(1, { Database.startedRun 1 1 time with id := 1 })]
      tasks := .ofList [(1, { Database.queuedTask 1 "process" time with id := 1 })] } }

/-- Two projects with a run each, where the row of the first one states the id of the
second one. -/
def misfiled : MemoryWorld Unit :=
  { memory with
    database := { Database.fresh with
      projects := .ofList [(1, { id := 2, name := "p", systemId := none })]
      users := .ofList [(1, { id := 1, username := "u", token := some "t" })]
      runs := .ofList
        [(1, { Database.startedRun 1 1 time with id := 1 }),
          (2, { Database.startedRun 2 2 time with id := 2 })]
      tasks := .ofList
        [(1, { Database.queuedTask 1 "process" time with id := 1 }),
          (2, { Database.queuedTask 2 "process" time with id := 2 })] } }

end Sample

theorem conduct_ends_sample :
    exists outcome known after, Sample.check Sample.withTask = ((.ok outcome, known), after) ∧
      outcome.status = .completed ∧
      Ended 1 { Database.startedRun 1 1 Sample.time with id := 1 } (.ok outcome)
        Sample.withTask.database after.database := by
  have hstatus : (Sample.check Sample.withTask).1.1.toOption.map CheckOutcome.status =
      some .completed := by decide +kernel
  have hfiled : (MemoryWorld.view.database Sample.withTask).Filed 1 := by
    intro project hproject
    cases hproject
    rfl
  rcases Checker.conduct_ends Sample.checker_alone Sample.checker_reliable Sample.connects.quietly
    1 .empty hfiled rfl with ⟨result, known, after, hrun, hended, _⟩
  have hcheck : Sample.check Sample.withTask = ((result, known), after) := hrun
  rw [hcheck] at hstatus
  cases result with
  | error fault => cases hstatus
  | ok outcome => exact ⟨outcome, known, after, hcheck, Option.some.inj hstatus, hended⟩

/-- Where a project's row states another id, its check ends the run of the other project
and leaves its own one open. -/
theorem run_left_open_when_misfiled :
    Sample.checker.Alone MemoryWorld.view ∧ Sample.checker.vault.Reliable ∧
    ConnectsQuietly Sample.connect MemoryWorld.view ∧
    (exists run, Sample.misfiled.database.runOf? 1 = some run) ∧
    ((Sample.check Sample.misfiled).1.1.toOption.map fun outcome =>
      (outcome.projectId, outcome.status)) = some (2, .completed) ∧
    ((Sample.check Sample.misfiled).2.database.runOf? 1).map Run.completedAt = some none := by
  refine ⟨Sample.checker_alone, Sample.checker_reliable, Sample.connects.quietly, ⟨_, rfl⟩, ?_, ?_⟩
  · decide +kernel
  · decide +kernel

end Whereabouts
