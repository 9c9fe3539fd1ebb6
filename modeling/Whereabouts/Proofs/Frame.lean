import Whereabouts.Proofs.CheckSteps
import Whereabouts.Proofs.JustifiedChanges

/-!
# The frame of a check

What a check leaves alone, however it ends: every table that it only reads, every item
that is not in its work list, every other project's run and every other task.  Of the
rows that it writes only some fields change, and no row appears or disappears.
-/

namespace Whereabouts

variable {σ ω : Type} {view : View σ ω}

/-!
## Tables
-/

/-- Some rows of a table may have changed, as far as a relation allows it, and no row was
added or removed. -/
def Table.ChangedBy {α : Type} (touched : Int64 -> Prop) (Allowed : α -> α -> Prop)
    (before after : Table α) : Prop :=
  forall id, after.get? id = before.get? id ∨
    (touched id ∧ exists old new,
      before.get? id = some old ∧ after.get? id = some new ∧ Allowed old new)

namespace Table.ChangedBy

variable {α : Type} {touched : Int64 -> Prop} {Allowed : α -> α -> Prop}
  {first second third : Table α}

theorem refl (table : Table α) : Table.ChangedBy touched Allowed table table :=
  fun _ => Or.inl rfl

theorem trans (hallowed : forall a b c, Allowed a b -> Allowed b c -> Allowed a c)
    (h : Table.ChangedBy touched Allowed first second)
    (h' : Table.ChangedBy touched Allowed second third) :
    Table.ChangedBy touched Allowed first third := by
  intro id
  rcases h' id with hsame | ⟨htouched, old, new, hold, hnew, hlate⟩
  · rw [hsame]
    exact h id
  · rcases h id with hsame | ⟨_, oldest, middle, holdest, hmiddle, hearly⟩
    · rw [hsame] at hold
      exact Or.inr ⟨htouched, old, new, hold, hnew, hlate⟩
    · rw [hmiddle] at hold
      cases hold
      exact Or.inr ⟨htouched, oldest, new, holdest, hnew, hallowed _ _ _ hearly hlate⟩

theorem insert {id : Int64} {old new : α} (htouched : touched id)
    (hold : first.get? id = some old) (hallowed : Allowed old new) :
    Table.ChangedBy touched Allowed first (OrderedMap.insert first id new) := by
  intro other
  by_cases hid : other = id
  · rw [hid, OrderedMap.get?_insert_self]
    exact Or.inr ⟨htouched, old, new, hold, rfl, hallowed⟩
  · exact Or.inl (OrderedMap.get?_insert_of_ne first new hid)

end Table.ChangedBy

/-- Two states of a run that differ at most in its counters and its end. -/
structure Run.Continues (old new : Run) : Prop where
  id : new.id = old.id
  projectId : new.projectId = old.projectId
  taskId : new.taskId = old.taskId
  startedAt : new.startedAt = old.startedAt

theorem Run.Continues.trans {a b c : Run} (h : a.Continues b) (h' : b.Continues c) :
    a.Continues c :=
  ⟨h'.id.trans h.id, h'.projectId.trans h.projectId, h'.taskId.trans h.taskId,
    h'.startedAt.trans h.startedAt⟩

theorem Run.Counting.continues {update : Run -> Run} (h : Run.Counting update) (run : Run) :
    run.Continues (update run) := by
  rcases h run with ⟨_, _, _, hrun⟩
  rw [hrun]
  exact ⟨rfl, rfl, rfl, rfl⟩

theorem Run.Ending.continues {update : Run -> Run} (h : Run.Ending update) (run : Run) :
    run.Continues (update run) := by
  rcases h run with ⟨_, _, _, _, hrun⟩
  rw [hrun]
  exact ⟨rfl, rfl, rfl, rfl⟩

/-- Two states of a task that differ at most in its status, its message and the time of
the latest change. -/
structure Task.Continues (old new : Task) : Prop where
  id : new.id = old.id
  processId : new.processId = old.processId
  description : new.description = old.description
  projectId : new.projectId = old.projectId
  created : new.created = old.created

theorem Task.Continues.trans {a b c : Task} (h : a.Continues b) (h' : b.Continues c) :
    a.Continues c :=
  ⟨h'.id.trans h.id, h'.processId.trans h.processId, h'.description.trans h.description,
    h'.projectId.trans h.projectId, h'.created.trans h.created⟩

theorem Task.continues_progressed (task : Task) (status : TaskStatus) (message : String)
    (time : Instant) : task.Continues (task.progressed status message time) :=
  ⟨rfl, rfl, rfl, rfl, rfl⟩

/-!
## Changes by a check
-/

namespace Database

/-- Two databases that differ in no more than the locations of items, the run of one
project and one task. -/
structure SameButCheck (projectId : Int64) (taskId : Option Int64) (before after : Database) :
    Prop where
  schemaVersion : after.schemaVersion = before.schemaVersion
  projects : after.projects = before.projects
  users : after.users = before.users
  pointClouds : after.pointClouds = before.pointClouds
  sequences : after.sequences = before.sequences
  runKey : after.runKey? projectId = before.runKey? projectId
  runs : Table.ChangedBy (fun id => before.runKey? projectId = some id) Run.Continues
    before.runs after.runs
  tasks : Table.ChangedBy (fun id => taskId = some id) Task.Continues before.tasks after.tasks

variable {projectId : Int64} {taskId : Option Int64} {a b c db after : Database}

theorem SameButCheck.refl (db : Database) : SameButCheck projectId taskId db db :=
  ⟨rfl, rfl, rfl, rfl, rfl, rfl, .refl _, .refl _⟩

theorem SameButCheck.trans (h : SameButCheck projectId taskId a b)
    (h' : SameButCheck projectId taskId b c) :
    SameButCheck projectId taskId a c where
  schemaVersion := h'.schemaVersion.trans h.schemaVersion
  projects := h'.projects.trans h.projects
  users := h'.users.trans h.users
  pointClouds := h'.pointClouds.trans h.pointClouds
  sequences := h'.sequences.trans h.sequences
  runKey := h'.runKey.trans h.runKey
  runs := by
    have hlate := h'.runs
    rw [h.runKey] at hlate
    exact h.runs.trans (fun _ _ _ => Run.Continues.trans) hlate
  tasks := h.tasks.trans (fun _ _ _ => Task.Continues.trans) h'.tasks

theorem sameButCheck_updateRun {update : Run -> Run} {run : Run}
    (hupdate : forall old : Run, old.Continues (update old))
    (h : db.updateRun projectId update = .ok (run, after)) :
    SameButCheck projectId taskId db after := by
  rcases updateRun_eq_ok_iff.mp h with ⟨key, old, hentry, rfl, rfl⟩
  rcases of_runEntry?_eq_some hentry with ⟨hold, hproject⟩
  have hkey : db.runKey? projectId = some key := congrArg (Option.map Prod.fst) hentry
  have hkey' := runEntry?_insert hentry ((hupdate old).projectId.trans hproject)
  exact ⟨rfl, rfl, rfl, rfl, rfl, (congrArg (Option.map Prod.fst) hkey').trans hkey.symm,
    .insert hkey hold (hupdate old), .refl _⟩

theorem sameButCheck_updateTask {id : Int64} {status : TaskStatus} {message : String}
    {time : Instant} (hid : taskId = some id)
    (h : db.updateTask id status message time = .ok ((), after)) :
    SameButCheck projectId taskId db after := by
  rcases updateTask_eq_ok_iff.mp h with ⟨task, htask, rfl⟩
  exact ⟨rfl, rfl, rfl, rfl, rfl, rfl, .refl _,
    .insert hid htask (task.continues_progressed status message time)⟩

theorem SweepStep.sameButCheck (h : SweepStep projectId taskId db after) :
    SameButCheck projectId taskId db after := by
  cases h with
  | moved pending =>
      rw [apply_eq]
      exact ⟨rfl, rfl, rfl, rfl, rfl, rfl, .refl _, .refl _⟩
  | counted hupdate h => exact sameButCheck_updateRun hupdate.continues h
  | noted hid h => exact sameButCheck_updateTask hid h

theorem CheckStep.sameButCheck (h : CheckStep projectId taskId db after) :
    SameButCheck projectId taskId db after := by
  cases h with
  | sweepStep h => exact h.sameButCheck
  | ended hupdate h => exact sameButCheck_updateRun hupdate.continues h
  | closed hid hstatus h => exact sameButCheck_updateTask hid h

/-!
## Checks
-/

/-- What a check of a project may make of a database: it changes the project's run, the task
of the run and the locations of items of the work list, of which nothing that was recorded
gets lost. -/
structure OwnRowsChanged (projectId : Int64) (origin db : Database) : Prop extends
    SameButCheck projectId ((origin.runOf? projectId).bind Run.taskId) origin db where
  items : forall key, db.tracked? key = origin.tracked? key ∨
    (key ∈ origin.work projectId ∧ exists item loc,
      origin.tracked? key = some item ∧ db.tracked? key = some (item.moved loc) ∧
        item.location.Grows loc)

end Database

theorem Assessed.grows {remote : Storage (StateM ω)} {provenance : Provenance}
    {origin : Database} {unread : Fault -> Prop} {engine : EngineSettings} {depth : Nat}
    {externalIds : OrderedMap String (Option String)} {world : ω} {after : Caches × ω}
    {findings : List Finding}
    (h : Assessed { storage := remote, engine, depth } provenance origin unread
      ((Sweep.start externalIds).caches, world) findings after)
    {finding : Finding} {loc : Location} (hmem : finding ∈ findings)
    (hloc : finding.result = .ok loc) :
    exists item, origin.tracked? finding.key = some item ∧ item.location.Grows loc := by
  let start : Recorded ω := { exchanges := [], inner := world }
  let surveyor : Surveyor (StateM (Recorded ω)) :=
    { storage := remote.recorded, engine, depth }
  have hover : Assessed (surveyor.over remote) provenance origin unread
      ((Sweep.start externalIds).caches, world) findings after := h
  have hstart : world = start.inner := rfl
  rcases hover.along remote.recorded_along_inner hstart with ⟨final, _, hassessed⟩
  rcases hassessed.accounted remote.recorded_records (Sweep.start_backed externalIds _ _) with
    ⟨_, haccounted⟩
  rcases haccounted finding hmem loc hloc with ⟨item, time, hitem, haccount⟩
  exact ⟨item, hitem, (item.location.grows_touched time).trans haccount.grows⟩

/-- However a check ends, and whatever remote storage answers, the database after it and
every database that it saved on its way differ from the one before it in the rows of the
check only. -/
theorem conduct_changes_own_rows_only {checker : Checker (StateM σ)} {remote : Storage (StateM ω)}
    {connect : String -> Attempt (StateM σ) (Storage (StateM σ))}
    (halone : checker.Alone view) (hconnects : Connects connect view remote)
    {projectId userId : Int64} {externalIds known : OrderedMap String (Option String)}
    {s after : σ} {result : Except Fault CheckOutcome} (hkeyed : (view.database s).Keyed)
    (hrun : (checker.conduct projectId userId externalIds connect).run s =
      ((result, known), after)) :
    exists saved, view.saved after = saved ++ view.saved s ∧
      forall db, db ∈ view.database after :: saved ->
        Database.OwnRowsChanged projectId (view.database s) db := by
  have hfollows := Checker.conduct_follows halone hconnects.quietly projectId userId externalIds
    s (hkeyed.projects projectId)
  rw [hrun] at hfollows
  rcases hfollows.keeps (Database.SameButCheck.refl (view.database s)) (fun x y hx hstep =>
    ⟨hx.trans (Database.CheckStep.sameButCheck hstep), hstep⟩) with ⟨hsameBut, _⟩
  rcases Checker.conduct_spec halone hconnects projectId userId externalIds s hkeyed with
    ⟨_, findings, caches, _, hconduct, hreached, hcases⟩
  rw [hconduct] at hrun
  cases hrun
  rcases hsameBut.saved with ⟨saved, hsaved, hallTended⟩
  rcases hreached.saved with ⟨saved', hsaved', hallReached⟩
  rw [hsaved] at hsaved'
  cases List.append_cancel_right hsaved'
  refine ⟨saved, hsaved, ?_⟩
  intro db hdb
  have hboth : Database.SameButCheck projectId
      (((view.database s).runOf? projectId).bind Run.taskId) (view.database s) db ∧
        Database.Reached (view.database s) projectId findings db := by
    rcases List.mem_cons.mp hdb with hdb | hdb
    · rw [hdb]
      exact ⟨hsameBut.database, hreached.database⟩
    · exact ⟨hallTended db hdb, hallReached db hdb⟩
  refine ⟨hboth.1, ?_⟩
  intro key
  rcases hboth.2.tracked?_cases key with hsame | ⟨finding, loc, hmem, hkey, hloc, hmoved⟩
  · exact Or.inl hsame
  · rcases hcases with ⟨hnone, _⟩ | ⟨setup, hsetup, hassessed, hfront, _⟩
    · rw [hnone] at hmem
      cases hmem
    · rcases Assessed.grows hassessed hmem hloc with ⟨item, hitem, hgrows⟩
      rw [hkey] at hitem
      refine Or.inr ⟨?_, item, loc, hitem, ?_, hgrows⟩
      · rw [← (Database.of_setup_eq_ok hsetup).2.1, ← hkey]
        exact hfront.subset (List.mem_map_of_mem hmem)
      · rw [hmoved, hitem]
        rfl

/-- The sample's check saves seven databases, each with other rows of the check only. -/
theorem conduct_changes_own_rows_only_sample :
    exists result known after, Sample.check Sample.memory = ((result, known), after) ∧
      after.saved.length = 7 ∧ Sample.database.Keyed ∧
      forall db, db ∈ after.database :: after.saved ->
        Database.OwnRowsChanged 1 Sample.database db := by
  have hlength : (Sample.check Sample.memory).2.saved.length = 7 := by decide +kernel
  have hkeyed : Sample.database.Keyed := by decide
  rcases hrun : Sample.check Sample.memory with ⟨⟨result, known⟩, after⟩
  rw [hrun] at hlength
  rcases @conduct_changes_own_rows_only _ _ MemoryWorld.view Sample.checker _ _
    Sample.checker_alone Sample.connects 1 1 .empty known Sample.memory after result hkeyed hrun
    with ⟨saved, hsaved, hchanged⟩
  have hnew : after.saved = saved := hsaved.trans (List.append_nil saved)
  rw [← hnew] at hchanged
  exact ⟨result, known, after, rfl, hlength, hkeyed, hchanged⟩

end Whereabouts
