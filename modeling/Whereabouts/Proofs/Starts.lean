import Whereabouts.Proofs.Order

/-!
# Starts

The start of a project's check finds one in flight and changes nothing, or it queues
one.  The task of a run that is given up is then superseded, and the run of the project
is made, or used again, with a new task.  Order is kept as long as ids do not run out.
-/

namespace Whereabouts

variable {σ ω : Type} {view : View σ ω}

/-!
## New ids
-/

/-- Neither the ids in a table nor the last one that was handed out for it have come to
the greatest one. -/
structure Table.Room {α : Type} (rows : Table α) (sequences : OrderedMap String Int64)
    (name : String) : Prop where
  rows : forall id row, rows.get? id = some row -> id < Int64.maxValue
  last : forall id, sequences.get? name = some id -> id < Int64.maxValue

instance {α : Type} (rows : Table α) (sequences : OrderedMap String Int64) (name : String) :
    Decidable (Table.Room rows sequences name) :=
  decidable_of_iff
    ((forall entry, entry ∈ rows.entries -> entry.1 < Int64.maxValue) ∧
      (sequences.get? name).all (fun id => decide (id < Int64.maxValue)) = true) (by
    rw [Option.all_eq_true]
    constructor
    · intro h
      exact ⟨fun id row hrow => h.1 (id, row) (OrderedMap.get?_eq_some_iff.mp hrow),
        fun id hid => of_decide_eq_true (h.2 id hid)⟩
    · intro h
      exact ⟨fun entry hentry => h.rows entry.1 entry.2 (OrderedMap.get?_eq_some_iff.mpr hentry),
        fun id hid => decide_eq_true (h.last id hid)⟩)

namespace Database

section NewIds

variable {α : Type} {rows : Table α} {sequences : OrderedMap String Int64} {name : String}

theorem le_last_key {id : Int64} {row : α} (h : rows.get? id = some row) :
    id ≤ rows.keys.getLast?.getD 0 := by
  have hmem : id ∈ rows.keys := List.mem_map.mpr ⟨(id, row), OrderedMap.get?_eq_some_iff.mp h, rfl⟩
  have hsorted : rows.keys.Pairwise (fun a b => a < b) :=
    List.pairwise_map.mpr (rows.sorted.imp compareOfLessAndEq_eq_lt.mp)
  rcases List.eq_nil_or_concat rows.keys with hnil | ⟨init, last, hkeys⟩
  · rw [hnil] at hmem
    cases hmem
  · rw [hkeys] at hmem hsorted ⊢
    rw [List.concat_eq_append] at hmem hsorted ⊢
    rw [List.getLast?_concat]
    rcases List.mem_append.mp hmem with hinit | hlast
    · exact Int64.le_of_lt ((List.pairwise_append.mp hsorted).2.2 id hinit last List.mem_cons_self)
    · rw [List.mem_singleton.mp hlast]
      exact Int64.le_refl last

theorem lt_add_one_of_lt_maxValue {id : Int64} (h : id < Int64.maxValue) : id < id + 1 := by
  have hmax : Int64.maxValue.toInt = 2 ^ 63 - 1 := by decide
  have hmin := id.le_toInt
  rw [Int64.lt_iff_toInt_lt] at h ⊢
  rw [Int64.toInt_add, Int64.toInt_one, Int.bmod_eq_of_le]
  · omega
  · omega
  · omega

theorem nextId_eq (h : Table.Room rows sequences name) :
    exists before, nextId sequences name rows = before + 1 ∧ before < Int64.maxValue ∧
      (sequences.get? name).getD 0 ≤ before ∧ rows.keys.getLast?.getD 0 ≤ before := by
  have hlast : (sequences.get? name).getD 0 < Int64.maxValue := by
    cases hget : sequences.get? name with
    | none => decide
    | some last => exact h.last last hget
  have htop : rows.keys.getLast?.getD 0 < Int64.maxValue := by
    cases hget : rows.keys.getLast? with
    | none => decide
    | some top =>
        rcases List.mem_map.mp (List.mem_of_getLast? hget) with ⟨entry, hentry, rfl⟩
        exact h.rows entry.1 entry.2 (OrderedMap.get?_eq_some_iff.mpr hentry)
  have hmax : forall a b : Int64, max a b = if a ≤ b then b else a := fun _ _ => rfl
  refine ⟨max ((sequences.get? name).getD 0) (rows.keys.getLast?.getD 0), rfl, ?_⟩
  rw [hmax]
  split
  · exact ⟨htop, ‹_›, Int64.le_refl _⟩
  · exact ⟨hlast, Int64.le_refl _, (Int64.le_total _ _).resolve_left ‹_›⟩

theorem lt_nextId (h : Table.Room rows sequences name) {id : Int64} {row : α}
    (hrow : rows.get? id = some row) : id < nextId sequences name rows := by
  rcases nextId_eq h with ⟨before, hid, hroom, _, htop⟩
  rw [hid]
  exact Int64.lt_of_le_of_lt (Int64.le_trans (le_last_key hrow) htop)
    (lt_add_one_of_lt_maxValue hroom)

theorem last_lt_nextId (h : Table.Room rows sequences name) {id : Int64}
    (hlast : sequences.get? name = some id) : id < nextId sequences name rows := by
  rcases nextId_eq h with ⟨before, hid, hroom, hle, _⟩
  rw [hlast, Option.getD_some] at hle
  rw [hid]
  exact Int64.lt_of_le_of_lt hle (lt_add_one_of_lt_maxValue hroom)

theorem get?_nextId (h : Table.Room rows sequences name) :
    rows.get? (nextId sequences name rows) = none := by
  cases hget : rows.get? (nextId sequences name rows) with
  | none => rfl
  | some row => exact absurd (lt_nextId h hget) Int64.lt_irrefl

end NewIds

/-- The ids of tasks and runs have not come to the greatest one. -/
structure IdsRemain (db : Database) : Prop where
  tasks : Table.Room db.tasks db.sequences "tasks"
  runs : Table.Room db.runs db.sequences "runs"

instance (db : Database) : Decidable db.IdsRemain :=
  decidable_of_iff
    (Table.Room db.tasks db.sequences "tasks" ∧ Table.Room db.runs db.sequences "runs")
    ⟨fun ⟨tasks, runs⟩ => ⟨tasks, runs⟩, fun ⟨tasks, runs⟩ => ⟨tasks, runs⟩⟩

/-!
## Queueing
-/

/-- The task of a project's run in flight. -/
def staleTask? (db : Database) (projectId : Int64) : Option Int64 :=
  ((db.runOf? projectId).filter Run.isRunning).bind Run.taskId

theorem staleTask?_eq_some_iff {db : Database} {projectId id : Int64} :
    db.staleTask? projectId = some id <->
      exists run, db.runOf? projectId = some run ∧ run.isRunning = true ∧
        run.taskId = some id := by
  unfold staleTask?
  rw [Option.bind_eq_some_iff]
  constructor
  · intro h
    rcases h with ⟨run, hrun, hid⟩
    rcases Option.filter_eq_some_iff.mp hrun with ⟨hrun, hrunning⟩
    exact ⟨run, hrun, hrunning, hid⟩
  · intro h
    rcases h with ⟨run, hrun, hrunning, hid⟩
    exact ⟨run, Option.filter_eq_some_iff.mpr ⟨hrun, hrunning⟩, hid⟩

end Database

/-- The task, marked as failed if it has work left. -/
def Task.givenUp (task : Task) (time : Instant) : Task :=
  if task.status.isTerminal then task
  else task.progressed .failed "Superseded by a forced restart" time

theorem Task.isTerminal_givenUp (task : Task) (time : Instant) :
    (task.givenUp time).status.isTerminal = true := by
  unfold givenUp
  split
  · assumption
  · rfl

theorem Task.continues_givenUp (task : Task) (time : Instant) :
    task.Continues (task.givenUp time) := by
  unfold givenUp
  split
  · exact ⟨rfl, rfl, rfl, rfl, rfl⟩
  · exact task.continues_progressed _ _ _

namespace Database

theorem get?_supersedeStale (db : Database) (stale : Option Int64) (time : Instant)
    (id : Int64) :
    (db.supersedeStale stale time).tasks.get? id =
      (db.tasks.get? id).map fun task => if stale = some id then task.givenUp time else task := by
  cases stale with
  | none => exact Option.map_id_apply.symm
  | some target =>
      have hget := OrderedMap.get?_modify db.tasks target id (fun task => task.givenUp time)
      refine Eq.trans hget ?_
      by_cases hid : id = target
      · simp [hid]
      · simp [hid, Ne.symm hid]

/-- A check of a project is queued: its new task, and its run, which is made or used
again. -/
structure Queues (projectId taskId key : Int64) (run : Run) (before after : Database) :
    Prop where
  sameButRuns : SameButRuns before after
  project : run.projectId = projectId
  owner : run.taskId = some taskId
  running : run.completedAt = none
  runs : after.runs = before.runs.insert key run
  row : (exists old, before.runEntry? projectId = some (key, old) ∧ run.id = old.id) ∨
    (before.runOf? projectId = none ∧ before.runs.get? key = none ∧ run.id = key)
  fresh : before.tasks.get? taskId = none
  queued : exists task, after.tasks.get? taskId = some task ∧ task.id = taskId ∧
    task.projectId = projectId ∧ task.status = .queued
  others : exists time, forall id, id ≠ taskId ->
    after.tasks.get? id = (before.tasks.get? id).map fun task =>
      if before.staleTask? projectId = some id then task.givenUp time else task

variable {projectId : Int64} {before after db : Database}

theorem supersedeStale_eq (db : Database) (stale : Option Int64) (time : Instant) :
    db.supersedeStale stale time =
      { db with tasks := (db.supersedeStale stale time).tasks } := by
  cases stale <;> rfl

theorem runOf?_of_updateRun_eq_error {update : Run -> Run} {fault : Fault}
    (h : db.updateRun projectId update = .error fault) : db.runOf? projectId = none := by
  cases hrun : db.runOf? projectId with
  | none => rfl
  | some run =>
      rcases runOf?_eq_some_iff.mp hrun with ⟨key, hentry⟩
      have hok : db.updateRun projectId update = .ok (update run, _) :=
        updateRun_eq_ok_iff.mpr ⟨key, run, hentry, rfl, rfl⟩
      cases h.symm.trans hok

/-- A start that succeeds finds a check in flight, or it queues one. -/
theorem startCheck_cases (hremain : db.IdsRemain) {force : Bool} {processId : String}
    {time : Instant} {started : StartedCheck}
    (h : db.startCheck projectId force processId time = .ok (started, after)) :
    (started.alreadyRunning = true ∧ after = db ∧ exists run, db.runOf? projectId = some run ∧
      run.isRunning = true ∧ started.runId = run.id ∧ started.taskId = run.taskId) ∨
    (started.alreadyRunning = false ∧ exists taskId key run,
      started.runId = run.id ∧ started.taskId = some taskId ∧
      Queues projectId taskId key run db after) := by
  unfold startCheck at h
  split at h
  · cases h
  dsimp only at h
  split at h
  · rename_i run hrun
    rcases Option.filter_eq_some_iff.mp hrun with ⟨hrun, hrunning⟩
    cases h
    exact Or.inl ⟨rfl, rfl, run, hrun, (Bool.and_eq_true_iff.mp hrunning).1, rfl, rfl⟩
  have htasks := get?_supersedeStale db (db.staleTask? projectId) time
  rw [← staleTask?, supersedeStale_eq] at h
  generalize (db.supersedeStale (db.staleTask? projectId) time).tasks = tasks at h htasks
  have hroom : Table.Room tasks db.sequences "tasks" := by
    refine ⟨?_, hremain.tasks.last⟩
    intro id row hrow
    rw [htasks] at hrow
    rcases Option.map_eq_some_iff.mp hrow with ⟨old, hold, _⟩
    exact hremain.tasks.rows id old hold
  have hfresh : db.tasks.get? (nextId db.sequences "tasks" tasks) = none := by
    have hnone := get?_nextId hroom
    rw [htasks] at hnone
    exact Option.map_eq_none_iff.mp hnone
  unfold insertTask at h
  dsimp only at h
  generalize nextId db.sequences "tasks" tasks = taskId at h hfresh
  have hothers : forall task : Task, exists time, forall id, id ≠ taskId ->
      (tasks.insert taskId task).get? id = (db.tasks.get? id).map fun task =>
        if db.staleTask? projectId = some id then task.givenUp time else task :=
    fun task => ⟨time, fun id hid => (tasks.get?_insert_of_ne task hid).trans (htasks id)⟩
  refine Or.inr ?_
  split at h
  · rename_i hupdate
    cases h
    rcases updateRun_eq_ok_iff.mp hupdate with ⟨key, old, hentry, rfl, rfl⟩
    exact ⟨rfl, taskId, key,
      { startedRun projectId taskId time with id := old.id, projectId := old.projectId }, rfl, rfl,
      ⟨rfl, rfl, rfl, rfl, rfl, rfl⟩, (of_runEntry?_eq_some hentry).2, rfl, rfl, rfl,
      Or.inl ⟨old, hentry, rfl⟩, hfresh,
      ⟨_, OrderedMap.get?_insert_self _ _ _, rfl, rfl, rfl⟩, hothers _⟩
  · rename_i hupdate
    have hnone := runOf?_of_updateRun_eq_error hupdate
    have hroom' : Table.Room db.runs (db.sequences.insert "tasks" taskId) "runs" := by
      refine ⟨hremain.runs.rows, ?_⟩
      rw [OrderedMap.get?_insert_of_ne _ _ (by decide)]
      exact hremain.runs.last
    have hnew := get?_nextId hroom'
    unfold insertRun at h
    dsimp only at h
    generalize nextId (db.sequences.insert "tasks" taskId) "runs" db.runs = runId at h hnew
    cases h
    exact ⟨rfl, taskId, runId, { startedRun projectId taskId time with id := runId }, rfl, rfl,
      ⟨rfl, rfl, rfl, rfl, rfl, rfl⟩, rfl, rfl, rfl, rfl, Or.inr ⟨hnone, hnew, rfl⟩, hfresh,
      ⟨_, OrderedMap.get?_insert_self _ _ _, rfl, rfl, rfl⟩, hothers _⟩

/-!
## Order
-/

namespace Queues

variable {taskId key : Int64} {run : Run}

theorem task_ne (h : Queues projectId taskId key run before after) {id : Int64} {task : Task}
    (htask : before.tasks.get? id = some task) : id ≠ taskId := by
  intro hid
  rw [hid, h.fresh] at htask
  cases htask

theorem of_task? (h : Queues projectId taskId key run before after) {id : Int64} {new : Task}
    (hid : id ≠ taskId) (hnew : after.tasks.get? id = some new) :
    exists old, before.tasks.get? id = some old ∧ old.Continues new ∧
      ((before.staleTask? projectId = some id ∧ new.status.isTerminal = true) ∨
        (before.staleTask? projectId ≠ some id ∧ new = old)) := by
  rcases h.others with ⟨time, hothers⟩
  rw [hothers id hid] at hnew
  rcases Option.map_eq_some_iff.mp hnew with ⟨old, hold, hnew⟩
  refine ⟨old, hold, ?_⟩
  by_cases hstale : before.staleTask? projectId = some id
  · rw [if_pos hstale] at hnew
    rw [← hnew]
    exact ⟨old.continues_givenUp time, Or.inl ⟨hstale, old.isTerminal_givenUp time⟩⟩
  · rw [if_neg hstale] at hnew
    rw [← hnew]
    exact ⟨⟨rfl, rfl, rfl, rfl, rfl⟩, Or.inr ⟨hstale, rfl⟩⟩

theorem task? (h : Queues projectId taskId key run before after) {id : Int64} {old : Task}
    (hold : before.tasks.get? id = some old) :
    exists new, after.tasks.get? id = some new ∧ old.Continues new ∧
      (old.status.isTerminal = true -> new = old) := by
  rcases h.others with ⟨time, hothers⟩
  have hnew := hothers id (h.task_ne hold)
  rw [hold] at hnew
  refine ⟨_, hnew, ?_⟩
  split
  · exact ⟨old.continues_givenUp time, fun hterminal => if_pos hterminal⟩
  · exact ⟨⟨rfl, rfl, rfl, rfl, rfl⟩, fun _ => rfl⟩

theorem eq_key (h : Queues projectId taskId key run before after) (honeRun : before.OneRunEach)
    {id : Int64} {old : Run} (hold : before.runs.get? id = some old)
    (hproject : old.projectId = projectId) : id = key := by
  have hrun : before.runOf? projectId = some old :=
    honeRun.runOf?_eq_some_iff.mpr ⟨id, hold, hproject⟩
  rcases h.row with ⟨other, hentry, _⟩ | ⟨hnone, _⟩
  · rcases of_runEntry?_eq_some hentry with ⟨hother, hproject'⟩
    exact honeRun id key old other hold hother (hproject.trans hproject'.symm)
  · rw [hrun] at hnone
    cases hnone

theorem runOf?_of_get?_key (h : Queues projectId taskId key run before after) {old : Run}
    (hold : before.runs.get? key = some old) :
    before.runOf? projectId = some old ∧ run.id = old.id := by
  rcases h.row with ⟨row, hentry, hid⟩ | ⟨_, hnone, _⟩
  · have hrow := (of_runEntry?_eq_some hentry).1
    rw [hold] at hrow
    cases hrow
    exact ⟨runOf?_eq_some_iff.mpr ⟨key, hentry⟩, hid⟩
  · rw [hold] at hnone
    cases hnone

theorem of_run? (h : Queues projectId taskId key run before after) {id : Int64} {row : Run}
    (hrow : after.runs.get? id = some row) :
    (id = key ∧ row = run) ∨ (id ≠ key ∧ before.runs.get? id = some row) := by
  rw [h.runs, OrderedMap.get?_insert] at hrow
  by_cases hid : id = key
  · rw [if_pos hid] at hrow
    exact Or.inl ⟨hid, (Option.some.inj hrow).symm⟩
  · rw [if_neg hid] at hrow
    exact Or.inr ⟨hid, hrow⟩

theorem get?_key (h : Queues projectId taskId key run before after) :
    after.runs.get? key = some run := by
  rw [h.runs]
  exact OrderedMap.get?_insert_self _ _ _

theorem run? (h : Queues projectId taskId key run before after) {id : Int64} {row : Run}
    (hid : id ≠ key) (hrow : before.runs.get? id = some row) :
    after.runs.get? id = some row := by
  rw [h.runs, OrderedMap.get?_insert_of_ne _ _ hid]
  exact hrow

theorem oneRunEach (h : Queues projectId taskId key run before after)
    (honeRun : before.OneRunEach) :
    after.OneRunEach := by
  intro id other row row' hrow hrow' hproject
  rcases h.of_run? hrow with ⟨rfl, rfl⟩ | ⟨_, hold⟩
  · rcases h.of_run? hrow' with ⟨hkey, _⟩ | ⟨_, hold'⟩
    · exact hkey.symm
    · exact (h.eq_key honeRun hold' (hproject.symm.trans h.project)).symm
  · rcases h.of_run? hrow' with ⟨hkey, hrun⟩ | ⟨_, hold'⟩
    · rw [hkey]
      rw [hrun, h.project] at hproject
      exact h.eq_key honeRun hold hproject
    · exact honeRun id other row row' hold hold' hproject

theorem busy (h : Queues projectId taskId key run before after) (horderly : before.Orderly)
    {id : Int64} {task : Task} (htask : after.tasks.get? id = some task) :
    task.status.isTerminal = false <-> exists other row, after.runs.get? other = some row ∧
      row.taskId = some id ∧ row.isRunning = true := by
  by_cases hid : id = taskId
  · rcases h.queued with ⟨queued, hqueued, _, _, hstatus⟩
    rw [hid, hqueued] at htask
    cases htask
    have hrunning : run.isRunning = true := by
      unfold Run.isRunning
      rw [h.running]
      rfl
    rw [hid, hstatus]
    exact iff_of_true rfl ⟨key, run, h.get?_key, h.owner, hrunning⟩
  have hother : forall other row, after.runs.get? other = some row -> row.taskId = some id ->
      other ≠ key ∧ before.runs.get? other = some row := by
    intro other row hrow howner
    rcases h.of_run? hrow with ⟨_, rfl⟩ | hold
    · rw [h.owner] at howner
      exact absurd (Option.some.inj howner).symm hid
    · exact hold
  rcases h.of_task? hid htask with ⟨old, hold, _, ⟨hstale, hterminal⟩ | ⟨hfresh, rfl⟩⟩
  · -- The task is given up, and the only run that it had is the one used again.
    rw [hterminal]
    refine iff_of_false nofun ?_
    intro hrunning
    rcases hrunning with ⟨other, row, hrow, howner, _⟩
    rcases hother other row hrow howner with ⟨hne, hrow⟩
    rcases staleTask?_eq_some_iff.mp hstale with ⟨current, hcurrent, _, howner'⟩
    rcases horderly.oneRunEach.runOf?_eq_some_iff.mp hcurrent with ⟨place, hplace, hproject⟩
    have hplaced := horderly.eq_of_owner hrow hplace howner howner'
    exact hne (hplaced.trans (h.eq_key horderly.oneRunEach hplace hproject))
  · rw [horderly.busy id task hold]
    constructor
    · intro hrunning
      rcases hrunning with ⟨other, row, hrow, howner, hrunning⟩
      refine ⟨other, row, h.run? ?_ hrow, howner, hrunning⟩
      intro hkey
      rw [hkey] at hrow
      have hcurrent := (h.runOf?_of_get?_key hrow).1
      exact hfresh (staleTask?_eq_some_iff.mpr ⟨row, hcurrent, hrunning, howner⟩)
    · intro hrunning
      rcases hrunning with ⟨other, row, hrow, howner, hrunning⟩
      exact ⟨other, row, (hother other row hrow howner).2, howner, hrunning⟩

theorem orderly (h : Queues projectId taskId key run before after)
    (horderly : before.Orderly) : after.Orderly where
  toKeyed := h.sameButRuns.keyed horderly.toKeyed
  users := by
    rw [h.sameButRuns.users]
    exact horderly.users
  pointClouds := by
    rw [h.sameButRuns.pointClouds]
    exact horderly.pointClouds
  runs := by
    intro id row hrow
    rcases h.of_run? hrow with ⟨rfl, rfl⟩ | ⟨_, hold⟩
    · rcases h.row with ⟨old, hentry, hid⟩ | ⟨_, _, hid⟩
      · exact hid.trans (horderly.runs id old (of_runEntry?_eq_some hentry).1)
      · exact hid
    · exact horderly.runs id row hold
  tasks := by
    intro id task htask
    by_cases hid : id = taskId
    · rcases h.queued with ⟨queued, hqueued, hqueuedId, _⟩
      rw [hid] at htask ⊢
      rw [hqueued] at htask
      cases htask
      exact hqueuedId
    · rcases h.of_task? hid htask with ⟨old, hold, hcontinues, _⟩
      exact hcontinues.id.trans (horderly.tasks id old hold)
  oneRunEach := h.oneRunEach horderly.oneRunEach
  owned := by
    intro id row hrow
    rcases h.of_run? hrow with ⟨_, rfl⟩ | ⟨_, hold⟩
    · rcases h.queued with ⟨queued, hqueued, _, hproject, _⟩
      exact ⟨taskId, queued, h.owner, hqueued, hproject.trans h.project.symm⟩
    · rcases horderly.owned id row hold with ⟨owned, old, howned, hget, hproject⟩
      rcases h.task? hget with ⟨new, hnew, hcontinues, _⟩
      exact ⟨owned, new, howned, hnew, hcontinues.projectId.trans hproject⟩
  busy := fun _ _ => h.busy horderly

theorem underway (h : Queues projectId taskId key run before after)
    (horderly : before.Orderly) : Underway projectId taskId after where
  orderly := h.orderly horderly
  run := ⟨run, (h.oneRunEach horderly.oneRunEach).runOf?_eq_some_iff.mpr
    ⟨key, h.get?_key, h.project⟩, h.owner, h.running⟩

theorem advances (h : Queues projectId taskId key run before after) (honeRun : before.OneRunEach)
    (hstarts : Starts projectId before after) : Advances before after where
  runs := by
    intro other old hother
    rcases honeRun.runOf?_eq_some_iff.mp hother with ⟨id, hold, hproject⟩
    by_cases hid : id = key
    · rw [hid] at hold
      rcases h.runOf?_of_get?_key hold with ⟨hcurrent, hrunId⟩
      have hsame : projectId = other := (projectId_of_runOf? hcurrent).symm.trans hproject
      subst hsame
      exact ⟨run, (h.oneRunEach honeRun).runOf?_eq_some_iff.mpr ⟨key, h.get?_key, h.project⟩,
        hrunId, Or.inl hstarts⟩
    · exact ⟨old, (h.oneRunEach honeRun).runOf?_eq_some_iff.mpr
        ⟨id, h.run? hid hold, hproject⟩, rfl, Or.inr ⟨rfl, fun _ htime => htime⟩⟩
  tasks := by
    intro id task htask hterminal
    rcases h.task? htask with ⟨new, hnew, _, hsame⟩
    rw [hsame hterminal] at hnew
    exact hnew

end Queues

theorem Advances.refl (db : Database) : Advances db db where
  runs := fun _ run hrun => ⟨run, hrun, rfl, Or.inr ⟨rfl, fun _ htime => htime⟩⟩
  tasks := fun _ _ htask _ => htask

theorem startCheck_of_running {run : Run} (hrun : db.runOf? projectId = some run)
    (hrunning : run.isRunning = true) (hproject : db.projects.contains projectId = true)
    (processId : String) (time : Instant) :
    db.startCheck projectId false processId time =
      .ok ({ runId := run.id, taskId := run.taskId, alreadyRunning := true }, db) := by
  have hcurrent : (db.runOf? projectId).filter (fun run => run.isRunning && !false) =
      some run := Option.filter_eq_some_iff.mpr ⟨hrun, by rw [hrunning]; rfl⟩
  unfold startCheck
  rw [hproject]
  dsimp only
  rw [hcurrent]
  rfl

theorem startCheck_of_missing (hproject : db.projects.contains projectId = false)
    (force : Bool) (processId : String) (time : Instant) :
    db.startCheck projectId force processId time = .error (.missingProject projectId) := by
  unfold startCheck
  rw [hproject]
  rfl

end Database

/-!
## Starting
-/

namespace Check

variable {vault : Vault (StateM σ)} {clock : Clock (StateM σ)} {projectId : Int64}

theorem on_start (hnow : view.Still clock.now) (hprocess : view.Still clock.newProcessId)
    (vault : Vault (StateM σ)) (projectId : Int64) (force : Bool) (s : σ) :
    exists processId time ready, view.Same s ready ∧
      (Check.start vault clock projectId force).on s =
        (vault.transaction fun db => db.startCheck projectId force processId time).on ready := by
  have hfirst := hprocess s
  rcases hid : clock.newProcessId.run s with ⟨processId, early⟩
  rw [hid] at hfirst
  have hsecond := hnow early
  rcases htime : clock.now.run early with ⟨time, ready⟩
  rw [htime] at hsecond
  have hid' : (Attempt.effect clock.newProcessId).on s = (.ok processId, early) := by
    rw [Attempt.on_effect, hid]
  have htime' : (Attempt.effect clock.now).on early = (.ok time, ready) := by
    rw [Attempt.on_effect, htime]
  refine ⟨processId, time, ready, hfirst.trans hsecond, ?_⟩
  exact (Attempt.on_bind_of_ok hid').trans (Attempt.on_bind_of_ok htime')

/-- However a start ends, the database stays in order, and when it queues a check, one is
in flight. -/
theorem start_advances (hvault : vault.Holds view) (hnow : view.Still clock.now)
    (hprocess : view.Still clock.newProcessId) (projectId : Int64) (force : Bool) {s : σ}
    (hs : (view.database s).Orderly) (hremain : (view.database s).IdsRemain) :
    exists result after, (Check.start vault clock projectId force).on s = (result, after) ∧
      (view.database after).Orderly ∧ view.Follows Database.Advances s after ∧
      forall started, result = .ok started -> started.alreadyRunning = false ->
        exists taskId, (view.database after).Underway projectId taskId := by
  rcases on_start hnow hprocess vault projectId force s with
    ⟨processId, time, ready, hready, hstart⟩
  have hcases := Vault.transaction_cases hvault
    (fun db => db.startCheck projectId force processId time) ready
  rw [hstart]
  rcases hon : (vault.transaction fun db =>
    db.startCheck projectId force processId time).on ready with ⟨result, after⟩
  rw [hon] at hcases
  refine ⟨result, after, rfl, ?_⟩
  rcases hcases with ⟨fault, rfl, hsame⟩ | ⟨started, db, rfl, hchange, hdatabase, hsaved, _⟩
  · have hsame' := hready.trans hsame
    refine ⟨?_, .of_same hsame', (fun _ hstarted => nomatch hstarted)⟩
    rw [hsame'.database]
    exact hs
  change view.database after = db at hdatabase
  change view.saved after = db :: view.saved ready at hsaved
  subst hdatabase
  rw [hready.database] at hchange
  rw [hready.saved] at hsaved
  rcases Database.startCheck_cases hremain hchange with
    ⟨hrunning, hkept, _⟩ | ⟨hnew, taskId, key, run, _, _, hqueues⟩
  · refine ⟨?_, .of_step ?_ hsaved, ?_⟩
    · rw [hkept]
      exact hs
    · rw [hkept]
      exact .refl _
    · intro other hother hnew
      cases hother
      rw [hrunning] at hnew
      cases hnew
  · have hstarts : Database.Starts projectId (view.database s) (view.database after) :=
      ⟨force, processId, time, started, hchange, hnew⟩
    refine ⟨hqueues.orderly hs, .of_step (hqueues.advances hs.oneRunEach hstarts) hsaved, ?_⟩
    exact fun _ _ _ => ⟨taskId, hqueues.underway hs⟩

theorem start_of_running (hvault : vault.Holds view) (hreliable : vault.Reliable)
    (hnow : view.Still clock.now) (hprocess : view.Still clock.newProcessId) {s : σ} {run : Run}
    (hrun : (view.database s).runOf? projectId = some run) (hrunning : run.isRunning = true) :
    exists after, (Check.start vault clock projectId false).on s =
      (if (view.database s).projects.contains projectId then
        .ok { runId := run.id, taskId := run.taskId, alreadyRunning := true }
      else .error (.missingProject projectId), after) ∧
      view.database after = view.database s := by
  rcases on_start hnow hprocess vault projectId false s with
    ⟨processId, time, ready, hready, hstart⟩
  rw [hstart, ← hready.database]
  rw [← hready.database] at hrun
  cases hproject : (view.database ready).projects.contains projectId with
  | true =>
      have hchange := Database.startCheck_of_running hrun hrunning hproject processId time
      rcases hreliable.transaction hvault
        (fun db => db.startCheck projectId false processId time) hchange with ⟨after, hon⟩
      have hafter := (Vault.of_transaction_ok hvault hon).1
      change (view.database ready).startCheck projectId false processId time = _ at hafter
      rw [hchange] at hafter
      exact ⟨after, hon, (Prod.mk.inj (Except.ok.inj hafter)).2.symm⟩
  | false =>
      have hchange := Database.startCheck_of_missing hproject false processId time
      rcases Vault.snapshot_cases hvault ready with
        ⟨result, after, hload, hsame, ⟨fault, hfault, _⟩ | hresult⟩
      · exact absurd hfault (hreliable.readable fault)
      · subst hresult
        refine ⟨after, (Attempt.on_bind_of_ok hload).trans ?_, hsame.database⟩
        dsimp only
        rw [hchange]
        rfl

end Check
end Whereabouts
