import Whereabouts.Proofs.Pending

/-!
# Runs and tasks

The changes that a check makes besides moving items concern runs and tasks only,
and of the runs only the one of its project.
-/

namespace Whereabouts
namespace Database

/-- Two databases that agree on everything but runs, tasks and sequences. -/
structure SameButRuns (db after : Database) : Prop where
  schemaVersion : after.schemaVersion = db.schemaVersion
  projects : after.projects = db.projects
  users : after.users = db.users
  assets : after.assets = db.assets
  tileServers : after.tileServers = db.tileServers
  pointClouds : after.pointClouds = db.pointClouds

/-- Two databases that agree on the tables which a check only reads. -/
structure SameSources (db after : Database) : Prop where
  projects : after.projects = db.projects
  users : after.users = db.users
  pointClouds : after.pointClouds = db.pointClouds

theorem SameSources.refl (db : Database) : SameSources db db :=
  ⟨rfl, rfl, rfl⟩

theorem SameSources.trans {a b c : Database} (hab : SameSources a b)
    (hbc : SameSources b c) : SameSources a c :=
  ⟨hbc.projects.trans hab.projects, hbc.users.trans hab.users,
    hbc.pointClouds.trans hab.pointClouds⟩

theorem SameButRuns.sameSources {db after : Database} (h : SameButRuns db after) :
    SameSources db after :=
  ⟨h.projects, h.users, h.pointClouds⟩

theorem SameButRuns.sameItems {db after : Database} (h : SameButRuns db after) :
    SameItems db after := by
  intro key
  unfold tracked?
  rw [h.assets, h.tileServers]

theorem SameButRuns.trans {a b c : Database} (hab : SameButRuns a b) (hbc : SameButRuns b c) :
    SameButRuns a c :=
  ⟨hbc.schemaVersion.trans hab.schemaVersion, hbc.projects.trans hab.projects,
    hbc.users.trans hab.users, hbc.assets.trans hab.assets,
    hbc.tileServers.trans hab.tileServers, hbc.pointClouds.trans hab.pointClouds⟩

/-!
## The run of a project
-/

def runEntry? (db : Database) (projectId : Int64) : Option (Int64 × Run) :=
  db.runs.entries.find? (fun entry => entry.2.projectId == projectId)

theorem runOf?_eq_map (db : Database) (projectId : Int64) :
    db.runOf? projectId = (db.runEntry? projectId).map Prod.snd := by
  unfold runOf? OrderedMap.values
  rw [List.find?_map]
  rfl

theorem runOf?_eq_some_iff {db : Database} {projectId : Int64} {run : Run} :
    db.runOf? projectId = some run <->
      exists key, db.runEntry? projectId = some (key, run) := by
  rw [runOf?_eq_map, Option.map_eq_some_iff]
  constructor
  · intro h
    rcases h with ⟨entry, hentry, rfl⟩
    exact ⟨entry.1, hentry⟩
  · intro h
    rcases h with ⟨key, hkey⟩
    exact ⟨(key, run), hkey, rfl⟩

theorem of_runEntry?_eq_some {db : Database} {projectId key : Int64} {run : Run}
    (h : db.runEntry? projectId = some (key, run)) :
    db.runs.get? key = some run ∧ run.projectId = projectId := by
  refine ⟨OrderedMap.get?_eq_some_iff.mpr (List.mem_of_find?_eq_some h), ?_⟩
  simpa using List.find?_some h

theorem projectId_of_runOf? {db : Database} {projectId : Int64} {run : Run}
    (h : db.runOf? projectId = some run) : run.projectId = projectId := by
  rcases runOf?_eq_some_iff.mp h with ⟨key, hkey⟩
  exact (of_runEntry?_eq_some hkey).2

theorem runEntry?_insert {db : Database} {projectId key : Int64} {old run : Run}
    (h : db.runEntry? projectId = some (key, old)) (hproject : run.projectId = projectId) :
    Database.runEntry? { db with runs := db.runs.insert key run } projectId =
      some (key, run) := by
  let test : Run -> Bool := fun run => run.projectId == projectId
  have htest : test run = true := beq_iff_eq.mpr hproject
  have hfind : db.runs.entries.find? (fun entry => test entry.2) = some (key, old) := h
  exact OrderedMap.find?_insert_of_find? hfind htest

theorem updateRun_eq_ok_iff {db after : Database} {projectId : Int64} {update : Run -> Run}
    {changed : Run} :
    db.updateRun projectId update = .ok (changed, after) <->
      exists key run, db.runEntry? projectId = some (key, run) ∧ changed = update run ∧
        after = { db with runs := db.runs.insert key changed } := by
  have hkey : db.runKey? projectId = (db.runEntry? projectId).map Prod.fst := rfl
  unfold updateRun
  rw [hkey, runOf?_eq_map]
  cases db.runEntry? projectId with
  | none => simp
  | some entry =>
      constructor
      · intro h
        cases h
        exact ⟨entry.1, entry.2, rfl, rfl, rfl⟩
      · intro h
        rcases h with ⟨key, run, hentry, rfl, rfl⟩
        cases hentry
        rfl

theorem of_updateRun_eq_ok {db after : Database} {projectId : Int64} {update : Run -> Run}
    {changed : Run} (h : db.updateRun projectId update = .ok (changed, after)) :
    exists run, db.runOf? projectId = some run ∧ changed = update run ∧
      SameButRuns db after ∧ after.tasks = db.tasks ∧
      (changed.projectId = projectId -> after.runOf? projectId = some changed) := by
  rcases updateRun_eq_ok_iff.mp h with ⟨key, run, hentry, hchanged, rfl⟩
  refine ⟨run, runOf?_eq_some_iff.mpr ⟨key, hentry⟩, hchanged, ⟨rfl, rfl, rfl, rfl, rfl, rfl⟩,
    rfl, ?_⟩
  intro hproject
  exact runOf?_eq_some_iff.mpr ⟨key, runEntry?_insert hentry hproject⟩

theorem updateTask_eq_ok_iff {db after : Database} {taskId : Int64} {status : TaskStatus}
    {message : String} {time : Instant} :
    db.updateTask taskId status message time = .ok ((), after) <->
      exists task, db.tasks.get? taskId = some task ∧
        after = { db with
          tasks := db.tasks.insert taskId (task.progressed status message time) } := by
  unfold updateTask
  cases db.tasks.get? taskId with
  | none => simp
  | some task =>
      constructor
      · intro h
        cases h
        exact ⟨task, rfl, rfl⟩
      · intro h
        rcases h with ⟨other, hother, rfl⟩
        cases hother
        rfl

theorem of_updateTask_eq_ok {db after : Database} {taskId : Int64} {status : TaskStatus}
    {message : String} {time : Instant}
    (h : db.updateTask taskId status message time = .ok ((), after)) :
    SameButRuns db after ∧ after.runs = db.runs := by
  rcases updateTask_eq_ok_iff.mp h with ⟨task, _, rfl⟩
  exact ⟨⟨rfl, rfl, rfl, rfl, rfl, rfl⟩, rfl⟩

theorem supersedeStale_sameButRuns (db : Database) (stale : Option Int64) (time : Instant) :
    SameButRuns db (db.supersedeStale stale time) := by
  cases stale with
  | none => exact ⟨rfl, rfl, rfl, rfl, rfl, rfl⟩
  | some taskId => exact ⟨rfl, rfl, rfl, rfl, rfl, rfl⟩

theorem of_startCheck_eq_ok {db after : Database} {projectId : Int64} {force : Bool}
    {processId : String} {time : Instant} {started : StartedCheck}
    (h : db.startCheck projectId force processId time = .ok (started, after)) :
    SameButRuns db after := by
  unfold startCheck at h
  split at h
  · cases h
  · dsimp only at h
    split at h
    · cases h
      exact ⟨rfl, rfl, rfl, rfl, rfl, rfl⟩
    · have hcleared := supersedeStale_sameButRuns db
        (((db.runOf? projectId).filter Run.isRunning).bind Run.taskId) time
      split at h
      · rename_i hupdate
        cases h
        rcases of_updateRun_eq_ok hupdate with ⟨_, _, _, hbook, _⟩
        exact hcleared.trans ⟨hbook.schemaVersion, hbook.projects, hbook.users,
          hbook.assets, hbook.tileServers, hbook.pointClouds⟩
      · cases h
        exact ⟨hcleared.schemaVersion, hcleared.projects, hcleared.users, hcleared.assets,
          hcleared.tileServers, hcleared.pointClouds⟩

/-!
## Waiting locations

Applying what waits touches neither runs nor the tables that are only read.
-/

theorem apply_eq (pending : Pending) (db : Database) :
    pending.apply db = { db with
      assets := (pending.apply db).assets, tileServers := (pending.apply db).tileServers } := by
  unfold Pending.apply
  induction pending.toList generalizing db with
  | nil => rfl
  | cons first rest ih =>
      rw [List.foldl_cons, ih]
      rcases first with ⟨⟨kind, id⟩, loc⟩
      cases kind <;> rfl

theorem apply_sources (pending : Pending) (db : Database) :
    SameSources db (pending.apply db) ∧ (pending.apply db).runs = db.runs := by
  rw [apply_eq]
  exact ⟨⟨rfl, rfl, rfl⟩, rfl⟩

end Database
end Whereabouts
