import Whereabouts.Proofs.Progress

/-!
# Orderly databases

Runs and tasks are in order when no project has two runs, every run has a task of its
project, and the tasks with work left are those of the running runs.  The check of a
running run keeps this order, but for the moment in which the run has ended and its task
has not.
-/

namespace Whereabouts

variable {σ ω : Type} {view : View σ ω}

namespace Database

/-- No project has two runs. -/
def OneRunEach (db : Database) : Prop :=
  forall id other run run', db.runs.get? id = some run -> db.runs.get? other = some run' ->
    run.projectId = run'.projectId -> id = other

/-- Runs and tasks are in order, and every row is stored under the id that it states. -/
structure Orderly (db : Database) : Prop extends Keyed db where
  users : StoredUnder db.users User.id
  pointClouds : StoredUnder db.pointClouds PointCloud.id
  runs : StoredUnder db.runs Run.id
  tasks : StoredUnder db.tasks Task.id
  oneRunEach : db.OneRunEach
  owned : forall id run, db.runs.get? id = some run -> exists taskId task,
    run.taskId = some taskId ∧ db.tasks.get? taskId = some task ∧
      task.projectId = run.projectId
  busy : forall taskId task, db.tasks.get? taskId = some task ->
    (task.status.isTerminal = false <-> exists id run, db.runs.get? id = some run ∧
      run.taskId = some taskId ∧ run.isRunning = true)

/-- A check of a project is queued, where none was in flight or where it was forced. -/
def Starts (projectId : Int64) (before after : Database) : Prop :=
  exists force processId time started,
    before.startCheck projectId force processId time = .ok (started, after) ∧
      started.alreadyRunning = false

/-- One change to the next database that is saved.  Runs keep their ids.  Unless a check
of its project is started, a run stays with its task, and with its end once it has one.
Tasks without work left stay as they are. -/
structure Advances (before after : Database) : Prop where
  runs : forall projectId run, before.runOf? projectId = some run ->
    exists next, after.runOf? projectId = some next ∧ next.id = run.id ∧
      (Starts projectId before after ∨
        (next.taskId = run.taskId ∧
          forall time, run.completedAt = some time -> next.completedAt = some time))
  tasks : forall id task, before.tasks.get? id = some task -> task.status.isTerminal = true ->
    after.tasks.get? id = some task

variable {projectId taskId : Int64} {before after db : Database}

theorem Keyed.orderly (h : db.Keyed) (husers : StoredUnder db.users User.id)
    (hpointClouds : StoredUnder db.pointClouds PointCloud.id) (hruns : db.runs = .empty)
    (htasks : db.tasks = .empty) : db.Orderly := by
  have hrun : forall id run, db.runs.get? id ≠ some run := by
    rw [hruns]
    exact fun _ _ hget => nomatch hget
  have htask : forall id task, db.tasks.get? id ≠ some task := by
    rw [htasks]
    exact fun _ _ hget => nomatch hget
  exact ⟨h, husers, hpointClouds, fun id run hget => absurd hget (hrun id run),
    fun id task hget => absurd hget (htask id task),
    fun id _ run _ hget => absurd hget (hrun id run),
    fun id run hget => absurd hget (hrun id run),
    fun id task hget => absurd hget (htask id task)⟩

/-!
## Rows
-/

theorem OneRunEach.runOf?_eq_some_iff (h : db.OneRunEach) {run : Run} :
    db.runOf? projectId = some run <->
      exists id, db.runs.get? id = some run ∧ run.projectId = projectId := by
  constructor
  · intro hrun
    rcases Database.runOf?_eq_some_iff.mp hrun with ⟨id, hentry⟩
    exact ⟨id, of_runEntry?_eq_some hentry⟩
  · intro hrun
    rcases hrun with ⟨id, hget, hproject⟩
    cases hentry : db.runEntry? projectId with
    | none =>
        have hmem := OrderedMap.get?_eq_some_iff.mp hget
        have hnone := List.find?_eq_none.mp hentry (id, run) hmem
        exact absurd (beq_iff_eq.mpr hproject) hnone
    | some entry =>
        rcases entry with ⟨other, run'⟩
        rcases of_runEntry?_eq_some hentry with ⟨hget', hproject'⟩
        have hid := h id other run run' hget hget' (hproject.trans hproject'.symm)
        subst hid
        rw [hget] at hget'
        cases hget'
        exact Database.runOf?_eq_some_iff.mpr ⟨id, hentry⟩

theorem SameButCheck.run_cases {owner : Option Int64}
    (h : SameButCheck projectId owner before after)
    (id : Int64) : after.runs.get? id = before.runs.get? id ∨
      exists old next, before.runs.get? id = some old ∧ after.runs.get? id = some next ∧
        old.Continues next ∧ old.projectId = projectId := by
  rcases h.runs id with hsame | ⟨hkey, old, next, hold, hnext, hcontinues⟩
  · exact Or.inl hsame
  · rcases Option.map_eq_some_iff.mp hkey with ⟨⟨key, run⟩, hentry, rfl⟩
    rcases of_runEntry?_eq_some hentry with ⟨hrun, hproject⟩
    rw [hold] at hrun
    cases hrun
    exact Or.inr ⟨old, next, hold, hnext, hcontinues, hproject⟩

theorem SameButCheck.of_run? {owner : Option Int64} (h : SameButCheck projectId owner before after)
    {id : Int64} {next : Run} (hnext : after.runs.get? id = some next) :
    exists old, before.runs.get? id = some old ∧ old.Continues next ∧
      (next = old ∨ old.projectId = projectId) := by
  rcases h.run_cases id with hsame | ⟨old, new, hold, hnew, hcontinues, hproject⟩
  · exact ⟨next, hsame.symm.trans hnext, ⟨rfl, rfl, rfl, rfl⟩, Or.inl rfl⟩
  · rw [hnext] at hnew
    cases hnew
    exact ⟨old, hold, hcontinues, Or.inr hproject⟩

theorem SameButCheck.run? {owner : Option Int64} (h : SameButCheck projectId owner before after)
    {id : Int64} {run : Run} (hrun : before.runs.get? id = some run) :
    exists next, after.runs.get? id = some next ∧ run.Continues next ∧
      (next = run ∨ run.projectId = projectId) := by
  rcases h.run_cases id with hsame | ⟨old, new, hold, hnew, hcontinues, hproject⟩
  · exact ⟨run, hsame.trans hrun, ⟨rfl, rfl, rfl, rfl⟩, Or.inl rfl⟩
  · rw [hrun] at hold
    cases hold
    exact ⟨new, hnew, hcontinues, Or.inr hproject⟩

theorem OneRunEach.sameButCheck {owner : Option Int64} (honeRun : before.OneRunEach)
    (h : SameButCheck projectId owner before after) : after.OneRunEach := by
  intro id other run run' hrun hrun' hproject
  rcases h.of_run? hrun with ⟨old, hold, hcontinues, _⟩
  rcases h.of_run? hrun' with ⟨old', hold', hcontinues', _⟩
  apply honeRun id other old old' hold hold'
  rw [← hcontinues.projectId, ← hcontinues'.projectId]
  exact hproject

theorem SameButCheck.advances {owner : Option Int64} (h : SameButCheck projectId owner before after)
    (honeRun : before.OneRunEach)
    (hrun : forall run next, before.runOf? projectId = some run ->
      after.runOf? projectId = some next ->
        forall time, run.completedAt = some time -> next.completedAt = some time)
    (htask : forall id task, owner = some id -> before.tasks.get? id = some task ->
      task.status.isTerminal = true -> after.tasks.get? id = some task) :
    Advances before after where
  runs := by
    intro other run hother
    rcases honeRun.runOf?_eq_some_iff.mp hother with ⟨id, hget, hproject⟩
    rcases h.run? hget with ⟨next, hnext, hcontinues, hcases⟩
    have hafter : after.runOf? other = some next :=
      (honeRun.sameButCheck h).runOf?_eq_some_iff.mpr
        ⟨id, hnext, hcontinues.projectId.trans hproject⟩
    refine ⟨next, hafter, hcontinues.id, Or.inr ⟨hcontinues.taskId, ?_⟩⟩
    rcases hcases with hsame | hproject'
    · rw [hsame]
      exact fun _ htime => htime
    · rw [hproject'] at hproject
      rw [← hproject] at hother hafter
      exact hrun run next hother hafter
  tasks := by
    intro id task hget hterminal
    rcases h.tasks id with hsame | ⟨howner, _⟩
    · exact hsame.trans hget
    · exact htask id task howner hget hterminal

/-!
## Checks of running runs
-/

theorem Orderly.eq_of_owner (h : db.Orderly) {id other : Int64} {run run' : Run}
    (hrun : db.runs.get? id = some run) (hrun' : db.runs.get? other = some run')
    (howner : run.taskId = some taskId) (howner' : run'.taskId = some taskId) : id = other := by
  rcases h.owned id run hrun with ⟨_, task, howned, htask, hproject⟩
  rcases h.owned other run' hrun' with ⟨_, task', howned', htask', hproject'⟩
  rw [howner] at howned
  rw [howner'] at howned'
  cases howned
  cases howned'
  rw [htask] at htask'
  cases htask'
  exact h.oneRunEach id other run run' hrun hrun' (hproject.symm.trans hproject')

theorem Orderly.busy_tended (h : before.Orderly)
    (hsameBut : SameButCheck projectId (some taskId) before after) {key : Int64} {run next : Run}
    {task : Task} (hrun : before.runs.get? key = some run) (hproject : run.projectId = projectId)
    (howner : run.taskId = some taskId) (hnext : after.runs.get? key = some next)
    (htask : after.tasks.get? taskId = some task)
    (hbusy : task.status.isTerminal = false <-> next.isRunning = true) {id : Int64} {row : Task}
    (hrow : after.tasks.get? id = some row) :
    row.status.isTerminal = false <-> exists other run, after.runs.get? other = some run ∧
      run.taskId = some id ∧ run.isRunning = true := by
  by_cases hid : id = taskId
  · subst hid
    rw [htask] at hrow
    cases hrow
    rw [hbusy]
    constructor
    · intro hrunning
      rcases hsameBut.of_run? hnext with ⟨old, hold, hkept, _⟩
      rw [hrun] at hold
      cases hold
      exact ⟨key, next, hnext, hkept.taskId.trans howner, hrunning⟩
    · intro hrunning
      rcases hrunning with ⟨other, new, hnew, howns, hrunning⟩
      rcases hsameBut.of_run? hnew with ⟨old, hold, hkept, _⟩
      have hother := h.eq_of_owner hold hrun (hkept.taskId.symm.trans howns) howner
      rw [hother, hnext] at hnew
      cases hnew
      exact hrunning
  have hunchanged : after.tasks.get? id = before.tasks.get? id :=
    (hsameBut.tasks id).resolve_right fun htouched => hid (Option.some.inj htouched.1).symm
  have hforeign : forall other old, before.runs.get? other = some old ->
      old.taskId = some id -> old.projectId ≠ projectId := by
    intro other old hold howns hproject'
    have hother := h.oneRunEach other key old run hold hrun (hproject'.trans hproject.symm)
    rw [hother, hrun] at hold
    cases hold
    rw [howner] at howns
    exact hid (Option.some.inj howns).symm
  rw [hunchanged] at hrow
  rw [h.busy id row hrow]
  constructor
  · intro hrunning
    rcases hrunning with ⟨other, old, hold, howns, hrunning⟩
    rcases hsameBut.run? hold with ⟨new, hnew, _, rfl | hproject'⟩
    · exact ⟨other, new, hnew, howns, hrunning⟩
    · exact absurd hproject' (hforeign other old hold howns)
  · intro hrunning
    rcases hrunning with ⟨other, new, hnew, howns, hrunning⟩
    rcases hsameBut.of_run? hnew with ⟨old, hold, hkept, rfl | hproject'⟩
    · exact ⟨other, new, hold, howns, hrunning⟩
    · exact absurd hproject' (hforeign other old hold (hkept.taskId.symm.trans howns))

theorem Orderly.sameButCheck (h : before.Orderly)
    (hsameBut : SameButCheck projectId (some taskId) before after)
    (hkeyed : after.Keyed) {run next : Run} {task : Task}
    (hrun : before.runOf? projectId = some run) (howner : run.taskId = some taskId)
    (hnext : after.runOf? projectId = some next) (htask : after.tasks.get? taskId = some task)
    (hbusy : task.status.isTerminal = false <-> next.isRunning = true) : after.Orderly := by
  have honeRun := h.oneRunEach.sameButCheck hsameBut
  rcases h.oneRunEach.runOf?_eq_some_iff.mp hrun with ⟨key, hget, hproject⟩
  rcases hsameBut.run? hget with ⟨new, hnew, hcontinues, _⟩
  have hnewOf : after.runOf? projectId = some new :=
    honeRun.runOf?_eq_some_iff.mpr ⟨key, hnew, hcontinues.projectId.trans hproject⟩
  rw [hnext] at hnewOf
  cases hnewOf
  refine ⟨hkeyed, ?_, ?_, ?_, ?_, honeRun, ?_, ?_⟩
  · rw [hsameBut.users]
    exact h.users
  · rw [hsameBut.pointClouds]
    exact h.pointClouds
  · intro id row hrow
    rcases hsameBut.of_run? hrow with ⟨old, hold, hcontinues, _⟩
    exact hcontinues.id.trans (h.runs id old hold)
  · intro id row hrow
    rcases hsameBut.of_task? hrow with ⟨old, hold, hcontinues⟩
    exact hcontinues.id.trans (h.tasks id old hold)
  · intro id row hrow
    rcases hsameBut.of_run? hrow with ⟨old, hold, hcontinues, _⟩
    rcases h.owned id old hold with ⟨owned, oldTask, howned, holdTask, hsame⟩
    rcases hsameBut.task? holdTask with ⟨newTask, hnewTask, htaskContinues⟩
    refine ⟨owned, newTask, hcontinues.taskId.trans howned, hnewTask, ?_⟩
    rw [htaskContinues.projectId, hsame, hcontinues.projectId]
  · exact fun id row hrow => h.busy_tended hsameBut hget hproject howner hnew htask hbusy hrow

theorem SameButRuns.keyed (h : SameButRuns before after) (hkeyed : before.Keyed) : after.Keyed :=
  hkeyed.moved h.projects h.sameItems.moved

theorem SweepStep.keyed {owner : Option Int64} (h : SweepStep projectId owner before after)
    (hkeyed : before.Keyed) : after.Keyed := by
  cases h with
  | moved pending =>
      exact hkeyed.moved (apply_sources pending before).1.projects (pending.moved_apply before)
  | counted hupdate h =>
      rcases of_updateRun_eq_ok h with ⟨_, _, _, hbook, _⟩
      exact hbook.keyed hkeyed
  | noted hid h => exact (of_updateTask_eq_ok h).1.keyed hkeyed

theorem SweepStep.runOf? {owner : Option Int64} (h : SweepStep projectId owner before after)
    {run : Run} (hrun : before.runOf? projectId = some run) :
    exists next, after.runOf? projectId = some next ∧ next.taskId = run.taskId ∧
      next.completedAt = run.completedAt := by
  have hsame : after.runs = before.runs -> after.runOf? projectId = some run := by
    intro hruns
    unfold Database.runOf? at hrun ⊢
    rw [hruns]
    exact hrun
  cases h with
  | moved pending => exact ⟨run, hsame (apply_sources pending before).2, rfl, rfl⟩
  | counted hupdate h =>
      rcases of_updateRun_eq_ok h with ⟨old, hold, rfl, _, _, hafter⟩
      rw [hrun] at hold
      cases hold
      rcases hupdate run with ⟨_, _, _, hcounted⟩
      have hproject : run.projectId = projectId := projectId_of_runOf? hrun
      rw [hcounted] at hafter
      exact ⟨_, hafter hproject, rfl, rfl⟩
  | noted hid h => exact ⟨run, hsame (of_updateTask_eq_ok h).2, rfl, rfl⟩

theorem SweepStep.task? {owner : Option Int64} (h : SweepStep projectId owner before after)
    {id : Int64} {task : Task} (htask : after.tasks.get? id = some task) :
    before.tasks.get? id = some task ∨ task.status = .running := by
  cases h with
  | moved pending =>
      rw [apply_eq] at htask
      exact Or.inl htask
  | counted hupdate h =>
      rcases of_updateRun_eq_ok h with ⟨_, _, _, _, htasks, _⟩
      rw [htasks] at htask
      exact Or.inl htask
  | @noted _ target message time hid h =>
      rcases updateTask_eq_ok_iff.mp h with ⟨old, _, rfl⟩
      have hrows : forall key row,
          (before.tasks.insert target (old.progressed .running message time)).get? key = some row ->
            before.tasks.get? key = some row ∨ row.status = .running :=
        OrderedMap.forall_get?_insert (fun _ _ hget => Or.inl hget) (Or.inr rfl)
      exact hrows id task htask

/-- An orderly database in which the run of a project is in flight. -/
structure Underway (projectId taskId : Int64) (db : Database) : Prop where
  orderly : db.Orderly
  run : exists run, db.runOf? projectId = some run ∧ run.taskId = some taskId ∧
    run.completedAt = none

theorem Orderly.underway (h : db.Orderly) {run : Run} (hrun : db.runOf? projectId = some run)
    (hrunning : run.isRunning = true) : exists taskId, Underway projectId taskId db := by
  rcases h.oneRunEach.runOf?_eq_some_iff.mp hrun with ⟨id, hget, _⟩
  rcases h.owned id run hget with ⟨taskId, _, howner, _⟩
  exact ⟨taskId, h, run, hrun, howner, Option.isNone_iff_eq_none.mp hrunning⟩

theorem Underway.task (h : Underway projectId taskId db) :
    exists task, db.tasks.get? taskId = some task ∧ task.status.isTerminal = false := by
  rcases h.run with ⟨run, hrun, howner, hrunning⟩
  rcases h.orderly.oneRunEach.runOf?_eq_some_iff.mp hrun with ⟨id, hget, _⟩
  rcases h.orderly.owned id run hget with ⟨owned, task, howned, htask, _⟩
  rw [howner] at howned
  cases howned
  refine ⟨task, htask, (h.orderly.busy taskId task htask).mpr ⟨id, run, hget, howner, ?_⟩⟩
  unfold Run.isRunning
  rw [hrunning]
  rfl

theorem Underway.hasRunAndTask (h : Underway projectId taskId db) :
    db.HasRunAndTask projectId (some taskId) where
  run := by
    rcases h.run with ⟨run, hrun, howner, _⟩
    rcases Database.runOf?_eq_some_iff.mp hrun with ⟨key, hentry⟩
    exact ⟨key, run, hentry, howner⟩
  task := by
    intro id hid
    cases hid
    rcases h.task with ⟨task, htask, _⟩
    exact ⟨task, htask⟩

theorem Underway.advances (h : Underway projectId taskId before)
    (hsameBut : SameButCheck projectId (some taskId) before after) : Advances before after := by
  rcases h.run with ⟨run, hrun, _, hrunning⟩
  rcases h.task with ⟨task, htask, hbusy⟩
  apply hsameBut.advances h.orderly.oneRunEach
  · intro other _ hother _ time htime
    rw [hrun] at hother
    cases hother
    rw [hrunning] at htime
    cases htime
  · intro id other hid hother hterminal
    cases hid
    rw [htask] at hother
    cases hother
    rw [hbusy] at hterminal
    cases hterminal

theorem Underway.sweepStep (h : Underway projectId taskId before)
    (hstep : SweepStep projectId (some taskId) before after) :
    Underway projectId taskId after ∧ Advances before after := by
  rcases h.run with ⟨run, hrun, howner, hrunning⟩
  rcases hstep.runOf? hrun with ⟨next, hnext, hnextOwner, hnextRunning⟩
  rcases h.task with ⟨old, hold, hbusy⟩
  rcases hstep.sameButCheck.task? hold with ⟨task, htask, _⟩
  have hbusy' : task.status.isTerminal = false := by
    rcases hstep.task? htask with hsame | hstatus
    · rw [hold] at hsame
      cases hsame
      exact hbusy
    · rw [hstatus]
      rfl
  rw [howner] at hnextOwner
  rw [hrunning] at hnextRunning
  have hnextRunning' : next.isRunning = true := by
    unfold Run.isRunning
    rw [hnextRunning]
    rfl
  have horderly := h.orderly.sameButCheck hstep.sameButCheck
    (hstep.keyed h.orderly.toKeyed) hrun howner hnext htask (iff_of_true hbusy' hnextRunning')
  exact ⟨⟨horderly, next, hnext, hnextOwner, hnextRunning⟩, h.advances hstep.sameButCheck⟩

theorem Underway.closing (h : Underway projectId taskId before) {status : TaskStatus}
    {message : String} {new : List Database}
    (hclosing : Closing projectId (some taskId) status message before new after)
    (hstatus : status.isTerminal = true) :
    after.Orderly ∧ Course Advances before new after := by
  rcases h.run with ⟨run, hrun, howner, hrunning⟩
  rcases h.task with ⟨task, htask, hbusy⟩
  cases hclosing with
  | alone hupdate hended hnone => cases hnone
  | @both update _ middle _ _ time hupdate hended hid hclosed =>
      cases hid
      have hfirst : SameButCheck projectId (some taskId) before middle :=
        sameButCheck_updateRun hupdate.continues hended
      have hsecond : SameButCheck projectId (some taskId) middle after :=
        sameButCheck_updateTask rfl hclosed
      rcases of_updateRun_eq_ok hended with ⟨old, hold, rfl, hbook, htasks, hnext⟩
      rw [hrun] at hold
      cases hold
      rcases of_updateTask_eq_ok hclosed with ⟨hbook', hruns⟩
      rcases updateTask_eq_ok_iff.mp hclosed with ⟨middleTask, hmiddleTask, hafter⟩
      rw [htasks, htask] at hmiddleTask
      cases hmiddleTask
      have hmiddleRun : middle.runOf? projectId = some (update run) :=
        hnext ((hupdate.continues run).projectId.trans (projectId_of_runOf? hrun))
      have hafterRun : after.runOf? projectId = some (update run) := by
        unfold Database.runOf? at hmiddleRun ⊢
        rw [hruns]
        exact hmiddleRun
      have hafterTask : after.tasks.get? taskId = some (task.progressed status message time) := by
        rw [hafter]
        exact OrderedMap.get?_insert_self _ _ _
      have hended' : (update run).isRunning = false := by
        rcases hupdate run with ⟨_, _, _, _, hupdated⟩
        rw [hupdated]
        rfl
      constructor
      · refine h.orderly.sameButCheck (hfirst.trans hsecond)
          ((hbook.trans hbook').keyed h.orderly.toKeyed) hrun howner hafterRun hafterTask ?_
        rw [hended']
        exact iff_of_false (fun hopen => nomatch hopen.symm.trans hstatus) nofun
      refine .snoc (.snoc .nil (h.advances hfirst)) ?_
      apply hsecond.advances (h.orderly.oneRunEach.sameButCheck hfirst)
      · intro other next hother hnext time htime
        rw [hmiddleRun] at hother
        rw [hafterRun] at hnext
        cases hother
        cases hnext
        exact htime
      · intro id other hid hother hterminal
        cases hid
        rw [htasks, htask] at hother
        cases hother
        rw [hbusy] at hterminal
        cases hterminal

end Database

/-- The check of a run in flight ends it, and leaves the database in order. -/
theorem Checker.conduct_advances {checker : Checker (StateM σ)} (halone : checker.Alone view)
    (hreliable : checker.vault.Reliable)
    {connect : String -> Attempt (StateM σ) (Storage (StateM σ))}
    (hquietly : ConnectsQuietly connect view) {projectId taskId : Int64} (userId : Int64)
    (externalIds : OrderedMap String (Option String)) {s : σ}
    (h : (view.database s).Underway projectId taskId) :
    exists outcome known after,
      (checker.conduct projectId userId externalIds connect).run s =
        ((.ok outcome, known), after) ∧
      (view.database after).Orderly ∧ view.Follows Database.Advances s after := by
  rcases h.run with ⟨run, hrun, howner, _⟩
  have hrunAndTask := h.hasRunAndTask
  rw [← howner] at hrunAndTask
  rcases conduct_closes halone hreliable hquietly userId externalIds
    (h.orderly.projects projectId) hrun hrunAndTask with
    ⟨outcome, known, mid, after, hconduct, hterminal, _, hsweepSteps, hcloses⟩
  rw [howner] at hsweepSteps hcloses
  rcases hsweepSteps.keeps h (fun _ _ hbefore hstep => hbefore.sweepStep hstep) with
    ⟨hmid, hearly⟩
  rcases hcloses with ⟨new, hnew, hclosing⟩
  rcases hmid.database.closing hclosing hterminal with ⟨horderly, hcourse⟩
  exact ⟨outcome, known, after, hconduct, horderly, hearly.trans ⟨new, hnew, hcourse⟩⟩

end Whereabouts
