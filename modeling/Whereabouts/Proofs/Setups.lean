import Whereabouts.Proofs.Accounting
import Whereabouts.Proofs.Endings

/-!
# Checks that cannot be set up

A check whose project, user, token or run is missing fails before it turns to remote
storage.  All that it changes is what says so: the run of the project is completed, and
the task that the run refers to is failed.
-/

namespace Whereabouts

variable {σ ω : Type} {view : View σ ω}

/-!
## What is missing
-/

namespace Database

/-- The first part that is missing of what a check needs: the project, the user, a token
of the user that is more than blanks, and a run of the project. -/
inductive Lacks (db : Database) (projectId userId : Int64) : Fault -> Prop
  | project (hproject : db.projects.get? projectId = none) :
      Lacks db projectId userId (.missingProject projectId)
  | user {project : Project} (hproject : db.projects.get? projectId = some project)
      (huser : db.users.get? userId = none) :
      Lacks db projectId userId (.missingUser userId)
  | credentials {project : Project} {user : User}
      (hproject : db.projects.get? projectId = some project)
      (huser : db.users.get? userId = some user)
      (hblank : forall token, user.token = some token -> Text.isBlankText token = true) :
      Lacks db projectId userId (.missingCredentials userId)
  | run {project : Project} {user : User} {token : String}
      (hproject : db.projects.get? projectId = some project)
      (huser : db.users.get? userId = some user) (htoken : user.token = some token)
      (hblank : Text.isBlankText token = false)
      (hrun : forall id run, db.runs.get? id = some run -> run.projectId ≠ projectId) :
      Lacks db projectId userId (.missingRun projectId)

def Incomplete (db : Database) (projectId userId : Int64) : Prop :=
  db.projects.get? projectId = none ∨ db.users.get? userId = none ∨
    (exists user, db.users.get? userId = some user ∧
      forall token, user.token = some token -> Text.isBlankText token = true) ∨
    forall id run, db.runs.get? id = some run -> run.projectId ≠ projectId

variable {db : Database} {projectId userId : Int64} {fault : Fault}

theorem Incomplete.exists_lacks (h : db.Incomplete projectId userId) :
    exists fault, db.Lacks projectId userId fault := by
  cases hproject : db.projects.get? projectId with
  | none => exact ⟨_, .project hproject⟩
  | some project =>
      cases huser : db.users.get? userId with
      | none => exact ⟨_, .user hproject huser⟩
      | some user =>
          by_cases hblank : forall token, user.token = some token -> Text.isBlankText token = true
          · exact ⟨_, .credentials hproject huser hblank⟩
          · simp only [not_forall, Bool.not_eq_true] at hblank
            rcases hblank with ⟨token, htoken, hblank⟩
            rcases h with hnone | hnone | ⟨other, hother, hnone⟩ | hrun
            · rw [hproject] at hnone
              cases hnone
            · rw [huser] at hnone
              cases hnone
            · rw [huser] at hother
              cases hother
              rw [hnone token htoken] at hblank
              cases hblank
            · exact ⟨_, .run hproject huser htoken hblank hrun⟩

theorem runOf?_eq_none
    (h : forall id run, db.runs.get? id = some run -> run.projectId ≠ projectId) :
    db.runOf? projectId = none := by
  refine Option.eq_none_iff_forall_ne_some.mpr fun run hrun => ?_
  rcases runOf?_eq_some_iff.mp hrun with ⟨id, hentry⟩
  rcases of_runEntry?_eq_some hentry with ⟨hget, hproject⟩
  exact h id run hget hproject

/-- The setup of a check stops at the first part that is missing. -/
theorem Lacks.setup (h : db.Lacks projectId userId fault) :
    db.setup projectId userId = .error fault := by
  unfold Database.setup
  cases h with
  | project hproject =>
      rw [hproject]
      rfl
  | user hproject huser =>
      rw [hproject, huser]
      rfl
  | @credentials _ user hproject huser hblank =>
      have htoken : user.credentials? = none := by
        unfold User.credentials?
        cases htoken : user.token with
        | none => rfl
        | some token => simp [hblank token htoken]
      rw [hproject, huser]
      dsimp only [bind, Except.bind]
      rw [htoken]
  | @run _ user token hproject huser htoken hblank hrun =>
      have htoken' : user.credentials? = some token := by
        unfold User.credentials?
        simp [htoken, hblank]
      rw [hproject, huser, runOf?_eq_none hrun]
      dsimp only [bind, Except.bind]
      rw [htoken']

/-!
## What is changed
-/

/-- The run of a project is completed with its counters as they were, the task that it
refers to is failed with a message, and there is no other change. -/
structure Stopped (projectId : Int64) (message : String) (before after : Database) : Prop
    extends SameButRuns before after where
  sequences : after.sequences = before.sequences
  runs : exists time, forall id, after.runs.get? id =
    if before.runKey? projectId = some id then (before.runs.get? id).map (Run.endedAt time)
    else before.runs.get? id
  tasks : exists time, forall id, after.tasks.get? id =
    if (before.runOf? projectId).bind Run.taskId = some id then
      (before.tasks.get? id).map fun task => task.progressed .failed message time
    else before.tasks.get? id

variable {before after : Database} {message : String}

theorem stopped_of_runOf?_eq_none (h : db.runOf? projectId = none) :
    Stopped projectId message db db := by
  have hkey : db.runKey? projectId = none := by
    rw [runOf?_eq_map, Option.map_eq_none_iff] at h
    exact congrArg (Option.map Prod.fst) h
  refine ⟨⟨rfl, rfl, rfl, rfl, rfl, rfl⟩, rfl, ⟨default, ?_⟩, ⟨default, ?_⟩⟩
  · simp [hkey]
  · simp [h]

theorem get?_runs_of_updateRun {update : Run -> Run} {changed : Run}
    (h : before.updateRun projectId update = .ok (changed, after)) (id : Int64) :
    after.runs.get? id =
      if before.runKey? projectId = some id then (before.runs.get? id).map update
      else before.runs.get? id := by
  rcases updateRun_eq_ok_iff.mp h with ⟨key, run, hentry, rfl, rfl⟩
  have hkey : before.runKey? projectId = some key := congrArg (Option.map Prod.fst) hentry
  rw [hkey, OrderedMap.get?_insert]
  by_cases hid : id = key
  · rw [hid, if_pos rfl, if_pos rfl, (of_runEntry?_eq_some hentry).1]
    rfl
  · rw [if_neg hid, if_neg fun h => hid (Option.some.inj h).symm]

theorem get?_tasks_of_updateTask {taskId : Int64} {status : TaskStatus} {time : Instant}
    (h : before.updateTask taskId status message time = .ok ((), after)) (id : Int64) :
    after.tasks.get? id =
      if taskId = id then
        (before.tasks.get? id).map fun task => task.progressed status message time
      else before.tasks.get? id := by
  rcases updateTask_eq_ok_iff.mp h with ⟨task, htask, rfl⟩
  rw [OrderedMap.get?_insert]
  by_cases hid : id = taskId
  · rw [hid, if_pos rfl, if_pos rfl, htask]
    rfl
  · rw [if_neg hid, if_neg (Ne.symm hid)]

section

variable {run closed : Run} {time : Instant} (hrun : before.runOf? projectId = some run)

include hrun

theorem stopped_of_updateRun
    (h : before.updateRun projectId (Run.endedAt time) = .ok (closed, after))
    (htask : forall id, run.taskId = some id -> before.tasks.get? id = none) :
    Stopped projectId message before after := by
  have hruns := get?_runs_of_updateRun h
  rcases updateRun_eq_ok_iff.mp h with ⟨_, _, _, _, rfl⟩
  refine ⟨⟨rfl, rfl, rfl, rfl, rfl, rfl⟩, rfl, ⟨time, hruns⟩, ⟨time, ?_⟩⟩
  intro id
  rw [hrun, Option.bind_some]
  by_cases hid : run.taskId = some id
  · rw [if_pos hid, htask id hid]
    rfl
  · rw [if_neg hid]

theorem stopped_of_updateTask {middle : Database} {time' : Instant} {taskId : Int64}
    (h : before.updateRun projectId (Run.endedAt time) = .ok (closed, middle))
    (htask : run.taskId = some taskId)
    (h' : middle.updateTask taskId .failed message time' = .ok ((), after)) :
    Stopped projectId message before after := by
  have hruns := get?_runs_of_updateRun h
  have htasks := get?_tasks_of_updateTask h'
  rcases updateRun_eq_ok_iff.mp h with ⟨_, _, _, _, rfl⟩
  rcases updateTask_eq_ok_iff.mp h' with ⟨_, _, rfl⟩
  refine ⟨⟨rfl, rfl, rfl, rfl, rfl, rfl⟩, rfl, ⟨time, hruns⟩, ⟨time', ?_⟩⟩
  intro id
  rw [hrun, Option.bind_some, htask, htasks id]
  simp only [Option.some.injEq]

theorem eq_endedAt_of_updateRun
    (h : before.updateRun projectId (Run.endedAt time) = .ok (closed, after)) :
    closed = run.endedAt time := by
  rcases (of_updateRun_endedAt h).1 with ⟨other, hother, rfl⟩
  rw [hrun] at hother
  cases hother
  rfl

end

end Database

/-!
## Checks
-/

namespace Checker

variable {checker : Checker (StateM σ)} {projectId userId : Int64} {fault : Fault} {s : σ}

/-- How a check ends that cannot be set up. -/
structure Declines (checker : Checker (StateM σ)) (view : View σ ω) (projectId : Int64)
    (fault : Fault) (s : σ) (result : Except Fault CheckOutcome) (after : σ) : Prop where
  outside : view.outside after = view.outside s
  stopped : (view.database s).Stopped projectId (checker.failureMessage fault)
    (view.database after)
  /-- Without a run nothing is changed at all. -/
  untouched : (view.database s).runOf? projectId = none -> view.Same s after
  /-- What is missing is reported with the run as it was counted. -/
  reported : (forall id, ((view.database s).runOf? projectId).bind Run.taskId = some id ->
      exists task, (view.database s).tasks.get? id = some task) ->
    result = .ok (checker.failedOutcome projectId ((view.database s).runOf? projectId) fault)
  /-- A run that refers to a task which is not there keeps it from being reported. -/
  unreported : forall id, ((view.database s).runOf? projectId).bind Run.taskId = some id ->
    (view.database s).tasks.get? id = none ->
      result = .error (.within ("check for project " ++ Fault.idText projectId
        ++ " failed and could not be marked failed") (.missingTask id))

theorem Declines.of_same {result : Except Fault CheckOutcome} {after : σ} {early : σ}
    (hsame : view.Same s early)
    (h : checker.Declines view projectId fault early result after) :
    checker.Declines view projectId fault s result after := by
  rcases h with ⟨houtside, hstopped, huntouched, hreported, hunreported⟩
  rw [hsame.database] at hstopped huntouched hreported hunreported
  exact ⟨houtside.trans hsame.outside, hstopped, fun h => hsame.trans (huntouched h), hreported,
    hunreported⟩

theorem Declines.of_run {run : Run} {result : Except Fault CheckOutcome} {after : σ}
    (hrun : (view.database s).runOf? projectId = some run)
    (houtside : view.outside after = view.outside s)
    (hstopped : (view.database s).Stopped projectId (checker.failureMessage fault)
      (view.database after))
    (hreported : (forall id, run.taskId = some id ->
        exists task, (view.database s).tasks.get? id = some task) ->
      result = .ok (checker.failedOutcome projectId (some run) fault))
    (hunreported : forall id, run.taskId = some id -> (view.database s).tasks.get? id = none ->
      result = .error (.within ("check for project " ++ Fault.idText projectId
        ++ " failed and could not be marked failed") (.missingTask id))) :
    checker.Declines view projectId fault s result after := by
  rw [← hrun] at hreported
  have hbind : ((view.database s).runOf? projectId).bind Run.taskId = run.taskId := by
    rw [hrun, Option.bind_some]
  rw [← hbind] at hreported hunreported
  refine ⟨houtside, hstopped, ?_, hreported, hunreported⟩
  intro hnone
  rw [hrun] at hnone
  cases hnone

theorem fail_outside (halone : checker.Alone view) {run : Option Run}
    {result : Except Fault CheckOutcome} {after : σ}
    (h : (checker.fail projectId run fault).on s = (result, after)) :
    view.outside after = view.outside s := by
  have hstart := Database.Stage.start (view.database s) projectId
  have hsame : view.outside ((checker.fail projectId run fault).on s).2 = view.outside s :=
    (fail_preserves halone projectId run fault [] s hstart).2
  rw [h] at hsame
  exact hsame

theorem fail_declines (halone : checker.Alone view) (hreliable : checker.vault.Reliable)
    (projectId : Int64) (fault : Fault) (s : σ) :
    exists result after,
      (checker.fail projectId ((view.database s).runOf? projectId) fault).on s = (result, after) ∧
      checker.Declines view projectId fault s result after := by
  cases hrun : (view.database s).runOf? projectId with
  | none =>
      have hpersist : (checker.persistFailure projectId none (checker.failureMessage fault)).on s =
          (.ok none, s) := rfl
      rcases fail_of_persisted halone hpersist with ⟨after, hfail, hsame⟩
      refine ⟨_, after, hfail, hsame.outside, ?_, fun _ => hsame, fun _ => by rw [hrun], ?_⟩
      · rw [hsame.database]
        exact Database.stopped_of_runOf?_eq_none hrun
      · intro id hid
        rw [hrun] at hid
        cases hid
  | some run =>
      rcases Database.runOf?_eq_some_iff.mp hrun with ⟨key, hentry⟩
      rcases persistFailure_persists halone hreliable run (checker.failureMessage fault) hentry with
        ⟨persisted, between, hpersist, hpersists⟩
      cases hpersists with
      | alone hchange _ htask =>
          rcases fail_of_persisted halone hpersist with ⟨after, hfail, hsame⟩
          have hnone : forall id, run.taskId ≠ some id := by
            rw [htask]
            exact fun _ hid => nomatch hid
          refine ⟨_, after, hfail, .of_run hrun (fail_outside halone hfail) ?_ ?_ ?_⟩
          · rw [hsame.database]
            exact Database.stopped_of_updateRun hrun hchange fun id hid => absurd hid (hnone id)
          · rw [Database.eq_endedAt_of_updateRun hrun hchange]
            exact fun _ => rfl
          · exact fun id hid => absurd hid (hnone id)
      | both hchange _ htask hget hfailed _ =>
          rcases fail_of_persisted halone hpersist with ⟨after, hfail, hsame⟩
          refine ⟨_, after, hfail, .of_run hrun (fail_outside halone hfail) ?_ ?_ ?_⟩
          · rw [hsame.database]
            exact Database.stopped_of_updateTask hrun hchange htask hfailed
          · rw [Database.eq_endedAt_of_updateRun hrun hchange]
            exact fun _ => rfl
          · intro id hid hnone
            rw [htask] at hid
            cases hid
            rw [hget] at hnone
            cases hnone
      | taskless hchange _ htask hget hsame =>
          have hfail := fail_of_unpersisted hpersist
          refine ⟨_, between, hfail, .of_run hrun (fail_outside halone hfail) ?_ ?_ ?_⟩
          · rw [hsame.database]
            refine Database.stopped_of_updateRun hrun hchange fun id hid => ?_
            rw [htask] at hid
            cases hid
            exact hget
          · intro htasks
            rcases htasks _ htask with ⟨task, hsome⟩
            rw [hget] at hsome
            cases hsome
          · intro id hid _
            rw [htask] at hid
            cases hid
            rfl

/-- A check that lacks something it needs neither connects to remote storage nor uses it,
reports the first part that is missing, and changes the run of the project and the task
that the run refers to, as far as they are there, and nothing else. -/
theorem conduct_declines (halone : checker.Alone view) (hreliable : checker.vault.Reliable)
    (hincomplete : (view.database s).Incomplete projectId userId)
    (externalIds : OrderedMap String (Option String)) :
    exists fault result after,
      (view.database s).Lacks projectId userId fault ∧
      (forall connect, (checker.conduct projectId userId externalIds connect).run s =
        ((result, externalIds), after)) ∧
      checker.Declines view projectId fault s result after := by
  rcases hincomplete.exists_lacks with ⟨fault, hlacks⟩
  rcases Vault.snapshot_cases halone.vault s with
    ⟨loaded, early, hloaded, hsame, ⟨other, hother, _⟩ | hresult⟩
  · exact absurd hother (hreliable.readable other)
  subst hresult
  have hrun : (Check.run? checker.vault projectId).on s =
      (.ok ((view.database s).runOf? projectId), early) := Attempt.on_bind_of_ok hloaded
  rcases Vault.snapshot_cases halone.vault early with
    ⟨loaded, ready, hloaded, hsame', ⟨other, hother, _⟩ | hresult⟩
  · exact absurd hother (hreliable.readable other)
  subst hresult
  have hread : (checker.readSetup projectId userId).on early = (.error fault, ready) := by
    refine (Attempt.on_bind_of_ok hloaded).trans ?_
    rw [hsame.database, hlacks.setup]
    rfl
  have hquiet := hsame.trans hsame'
  rcases fail_declines halone hreliable projectId fault ready with
    ⟨result, after, hfail, hdeclines⟩
  rw [hquiet.database] at hfail
  exact ⟨fault, result, after, hlacks,
    fun connect => conduct_of_setup_error hrun hread hfail, hdeclines.of_same hquiet⟩

end Checker

/-!
## Samples
-/

namespace Sample

/-- The sample's check with a task, of a user that is not there. -/
def unclaimed : MemoryWorld Unit :=
  { withTask with database := { withTask.database with users := .empty } }

def taskless : MemoryWorld Unit :=
  { unclaimed with database := { unclaimed.database with tasks := .empty } }

theorem unclaimed_incomplete : (MemoryWorld.view.database unclaimed).Incomplete 1 1 :=
  Or.inr (Or.inl rfl)

end Sample

/-- The user is reported to be missing. -/
theorem conduct_declines_sample :
    exists after,
      Sample.check Sample.unclaimed =
        ((.ok (Sample.checker.failedOutcome 1 (Sample.unclaimed.database.runOf? 1)
          (.missingUser 1)), .empty), after) ∧
      (Sample.unclaimed.database).Stopped 1 "Check failed: user 1 not found" after.database := by
  rcases Checker.conduct_declines Sample.checker_alone Sample.checker_reliable
    Sample.unclaimed_incomplete .empty with ⟨fault, result, after, hlacks, hrun, hdeclines⟩
  cases hlacks with
  | project hproject => cases hproject
  | user _ _ =>
      have hresult := hdeclines.reported (by
        intro id hid
        cases hid
        exact ⟨_, rfl⟩)
      subst hresult
      have hmessage : Sample.checker.failureMessage (.missingUser 1) =
          "Check failed: user 1 not found" := by decide +kernel
      exact ⟨after, hrun Sample.connect, hmessage ▸ hdeclines.stopped⟩
  | credentials _ huser _ => cases huser
  | run _ huser _ _ _ => cases huser

/-- The user is missing, and yet it is the task of the run that is reported. -/
theorem first_missing_unreported :
    Sample.checker.Alone MemoryWorld.view ∧ Sample.checker.vault.Reliable ∧
    Sample.taskless.database.Lacks 1 1 (.missingUser 1) ∧
    (exists run, Sample.taskless.database.runOf? 1 = some run ∧ run.taskId = some 1) ∧
    Sample.taskless.database.tasks.get? 1 = none ∧
    (Sample.check Sample.taskless).1.1 =
      .error (.within ("check for project " ++ Fault.idText 1
        ++ " failed and could not be marked failed") (.missingTask 1)) :=
  ⟨Sample.checker_alone, Sample.checker_reliable, .user rfl rfl, ⟨_, rfl, rfl⟩, rfl, rfl⟩

end Whereabouts
