import Mathlib.Logic.Relation
import Whereabouts.Command.Checks
import Whereabouts.Proofs.Starts

/-!
# Commands on checks

Commands that queue and run checks are served one after the other, in whatever order they
come and however they end.  Runs and tasks stay in order, and what is over stays as it is.
-/

namespace Whereabouts

variable {σ ω α β : Type} {view : View σ ω}

/-!
## The context of commands
-/

/-- A context whose vault is the only way to the database and can be used at any time.
The clock, the trail, the settings and remote storage may answer or fail as they like. -/
structure CommandContext.Alone (ctx : CommandContext (StateM σ)) (view : View σ ω) : Prop where
  vault : ctx.vault.Holds view
  reliable : ctx.vault.Reliable
  now : view.Still ctx.clock.now
  newProcessId : view.Still ctx.clock.newProcessId
  trail : forall event, view.Still (ctx.trail.append event).run
  settings : view.Still ctx.settings.run
  connect : forall settings, ConnectsQuietly (ctx.connect settings) view

theorem CommandContext.Alone.checker {ctx : CommandContext (StateM σ)} (h : ctx.Alone view)
    (settings : Settings) : (ctx.checker settings).Alone view where
  vault := h.vault
  now := h.now
  newProcessId := h.newProcessId
  trail := h.trail

/-- Between two states of the world an orderly database was come to step by step. -/
structure View.Advances (view : View σ ω) (s after : σ) : Prop where
  orderly : (view.database after).Orderly
  follows : view.Follows Database.Advances s after

namespace View.Advances

theorem of_same {s after : σ} (h : view.Same s after) (hs : (view.database s).Orderly) :
    view.Advances s after where
  orderly := by
    rw [h.database]
    exact hs
  follows := .of_same h

theorem trans {s t u : σ} (hst : view.Advances s t) (htu : view.Advances t u) :
    view.Advances s u :=
  ⟨htu.orderly, hst.follows.trans htu.follows⟩

theorem pure (a : α) {s : σ} (hs : (view.database s).Orderly) :
    view.Advances s ((Pure.pure a : Attempt (StateM σ) α).on s).2 :=
  of_same (View.Same.refl s) hs

theorem bind {x : Attempt (StateM σ) α} {f : α -> Attempt (StateM σ) β} {s : σ}
    (hx : view.Advances s (x.on s).2)
    (hf : forall a between, x.on s = (.ok a, between) -> (view.database between).Orderly ->
      view.Advances between ((f a).on between).2) :
    view.Advances s ((x >>= f).on s).2 := by
  rcases hon : x.on s with ⟨result, between⟩
  rw [hon] at hx
  cases result with
  | error fault =>
      rw [Attempt.on_bind_of_error hon]
      exact hx
  | ok a =>
      rw [Attempt.on_bind_of_ok hon]
      exact hx.trans (hf a between hon hx.orderly)

end View.Advances

/-!
## Single commands
-/

namespace Command

variable {ctx : CommandContext (StateM σ)} {projectId : Int64}

theorem startCheck_advances (halone : ctx.Alone view) (projectId : Int64) (force : Bool)
    {s : σ} (hs : (view.database s).Orderly) (hremain : (view.database s).IdsRemain) :
    view.Advances s ((startCheck ctx projectId force).on s).2 := by
  rcases Check.start_advances halone.vault halone.now halone.newProcessId projectId force hs
    hremain with ⟨result, after, hstart, horderly, hfollows, _⟩
  apply View.Advances.bind
  · rw [hstart]
    exact ⟨horderly, hfollows⟩
  · intro started between _ hbetween
    apply View.Advances.bind
    · exact .of_same (halone.trail _ between) hbetween
    · exact fun _ _ _ hlast => .pure _ hlast

theorem runQueued_advances (halone : ctx.Alone view) (settings : Settings)
    (report : Report) (userId : Int64) {taskId : Int64} {s : σ}
    (hs : (view.database s).Underway projectId taskId) :
    view.Advances s ((runQueued ctx settings report projectId userId).on s).2 := by
  rcases Checker.conduct_advances (halone.checker settings) halone.reliable
    (halone.connect settings) userId .empty hs with
    ⟨outcome, known, after, hconduct, horderly, hfollows⟩
  have hon : Attempt.on (ExceptT.mk do
      return (<- (ctx.checker settings).conduct projectId userId .empty
        (ctx.connect settings)).1) s = (.ok outcome, after) := View.run_bind_of_eq hconduct
  apply View.Advances.bind
  · rw [hon]
    exact ⟨horderly, hfollows⟩
  · intro other between _ hbetween
    dsimp only
    split
    · exact .pure _ hbetween
    · exact .pure _ hbetween

theorem run_advances (halone : ctx.Alone view) (projectId userId : Int64) {s : σ}
    (hs : (view.database s).Orderly) :
    view.Advances s ((run ctx projectId userId).on s).2 := by
  apply View.Advances.bind
  · exact .of_same (halone.settings s) hs
  intro settings ready _ hready
  rcases Vault.snapshot_cases halone.vault ready with
    ⟨result, late, hload, hsame, ⟨fault, hfault, _⟩ | hresult⟩
  · exact absurd hfault (halone.reliable.readable fault)
  subst hresult
  have hrunning : (Check.isRunning ctx.vault projectId).on ready =
      (.ok (((view.database ready).runOf? projectId |>.map Run.isRunning).getD false), late) :=
    Attempt.on_bind_of_ok (Attempt.on_bind_of_ok hload)
  apply View.Advances.bind
  · rw [hrunning]
    exact .of_same hsame hready
  intro running between hon hbetween
  rw [hrunning] at hon
  cases hon
  cases hrun : (view.database ready).runOf? projectId with
  | none => exact .pure _ hbetween
  | some run =>
      change view.Advances late
        ((if run.isRunning then _ else _ : Attempt (StateM σ) Report).on late).2
      split
      · rename_i hopen
        rw [← hsame.database] at hrun
        rcases hbetween.underway hrun hopen with ⟨taskId, hunderway⟩
        exact runQueued_advances halone settings _ userId hunderway
      · exact .pure _ hbetween

theorem check_advances (halone : ctx.Alone view) (projectId userId : Int64) {s : σ}
    (hs : (view.database s).Orderly) (hremain : (view.database s).IdsRemain) :
    view.Advances s ((check ctx projectId userId).on s).2 := by
  apply View.Advances.bind
  · exact .of_same (halone.settings s) hs
  intro settings ready hon hready
  rw [← (halone.settings.of_on hon).database] at hremain
  rcases Check.start_advances halone.vault halone.now halone.newProcessId projectId false hready
    hremain with ⟨result, after, hstart, horderly, hfollows, hqueued⟩
  apply View.Advances.bind
  · rw [hstart]
    exact ⟨horderly, hfollows⟩
  intro started between hstarted hbetween
  rw [hstart] at hstarted
  cases hstarted
  split
  · exact .pure _ hbetween
  · rename_i hnew
    rcases hqueued started rfl (Bool.eq_false_iff.mpr hnew) with ⟨taskId, hunderway⟩
    exact runQueued_advances halone settings _ userId hunderway

theorem startCheck_of_running (halone : ctx.Alone view) {s : σ} {run : Run}
    (hrun : (view.database s).runOf? projectId = some run) (hrunning : run.isRunning = true) :
    view.database ((startCheck ctx projectId false).on s).2 = view.database s := by
  rcases Check.start_of_running halone.vault halone.reliable halone.now halone.newProcessId hrun
    hrunning with ⟨after, hstart, hafter⟩
  have htrail : forall event (report : Report),
      view.Still (ctx.trail.append event >>= fun _ => pure report).run :=
    fun event report => View.still_attempt_bind (halone.trail event) fun _ => View.still_pure _
  unfold startCheck
  split at hstart
  · rw [Attempt.on_bind_of_ok hstart]
    exact (htrail _ _ after).database.trans hafter
  · rw [Attempt.on_bind_of_error hstart]
    exact hafter

end Command

/-!
## Many commands
-/

/-- A command was served.  It came with a context of its own, and the ids had not run out. -/
inductive Served (view : View σ ω) (s : σ) : σ -> Prop
  | startCheck {ctx : CommandContext (StateM σ)} (halone : ctx.Alone view)
      (hremain : (view.database s).IdsRemain) (projectId : Int64) (force : Bool) :
      Served view s ((Command.startCheck ctx projectId force).on s).2
  | run {ctx : CommandContext (StateM σ)} (halone : ctx.Alone view)
      (projectId userId : Int64) :
      Served view s ((Command.run ctx projectId userId).on s).2
  | check {ctx : CommandContext (StateM σ)} (halone : ctx.Alone view)
      (hremain : (view.database s).IdsRemain) (projectId userId : Int64) :
      Served view s ((Command.check ctx projectId userId).on s).2

theorem Served.advances {s t : σ} (h : Served view s t) (hs : (view.database s).Orderly) :
    view.Advances s t := by
  cases h with
  | startCheck halone hremain projectId force =>
      exact Command.startCheck_advances halone projectId force hs hremain
  | run halone projectId userId => exact Command.run_advances halone projectId userId hs
  | check halone hremain projectId userId =>
      exact Command.check_advances halone projectId userId hs hremain

theorem served_advances {s t : σ} (hs : (view.database s).Orderly)
    (h : Relation.ReflTransGen (Served view) s t) : view.Advances s t := by
  induction h with
  | refl => exact .of_same (View.Same.refl s) hs
  | tail _ hlast ih => exact ih.trans (hlast.advances ih.orderly)

namespace View.Advances

variable {s t : σ} {projectId : Int64} {run : Run}

theorem run? (h : view.Advances s t) (hrun : (view.database s).runOf? projectId = some run) :
    exists next, (view.database t).runOf? projectId = some next ∧ next.id = run.id := by
  apply h.follows.closed (R := fun _ y => exists next, y.runOf? projectId = some next ∧
    next.id = run.id)
  · exact ⟨run, hrun, rfl⟩
  · intro x y hx hstep
    rcases hx with ⟨middle, hmiddle, hid⟩
    rcases hstep.runs projectId middle hmiddle with ⟨next, hnext, hid', _⟩
    exact ⟨next, hnext, hid'.trans hid⟩

theorem task? (h : view.Advances s t) {id : Int64} {task : Task}
    (htask : (view.database s).tasks.get? id = some task)
    (hterminal : task.status.isTerminal = true) :
    (view.database t).tasks.get? id = some task := by
  apply h.follows.closed (R := fun _ y => y.tasks.get? id = some task) htask
  intro x y hx hstep
  exact hstep.tasks id task hx hterminal

theorem unstarted (h : view.Advances s t)
    (hunstarted : view.Follows
      (fun before after => ¬ Database.Starts projectId before after) s t)
    (hrun : (view.database s).runOf? projectId = some run) :
    exists next, (view.database t).runOf? projectId = some next ∧ next.taskId = run.taskId ∧
      forall time, run.completedAt = some time -> next.completedAt = some time := by
  apply (h.follows.and hunstarted).closed (R := fun _ y => exists next,
    y.runOf? projectId = some next ∧ next.taskId = run.taskId ∧
      forall time, run.completedAt = some time -> next.completedAt = some time)
  · exact ⟨run, hrun, rfl, fun _ htime => htime⟩
  · intro x y hx hstep
    rcases hx with ⟨middle, hmiddle, howner, hended⟩
    rcases hstep.1.runs projectId middle hmiddle with
      ⟨next, hnext, _, hstarts | ⟨howner', hended'⟩⟩
    · exact absurd hstarts hstep.2
    · exact ⟨next, hnext, howner'.trans howner,
        fun time htime => hended' time (hended time htime)⟩

end View.Advances

/-- From an orderly database, whatever commands on checks are served, runs and tasks stay
in order: projects keep their runs, tasks without work left stay as they are, a run that
is over stays so until a check of its project is started, and a check in flight is left
alone by a start that is not forced. -/
theorem served_in_order {s t : σ} (hs : (view.database s).Orderly)
    (h : Relation.ReflTransGen (Served view) s t) :
    (view.database t).Orderly ∧
    view.Follows Database.Advances s t ∧
    (forall projectId run, (view.database s).runOf? projectId = some run ->
      exists next, (view.database t).runOf? projectId = some next ∧ next.id = run.id) ∧
    (forall id task, (view.database s).tasks.get? id = some task ->
      task.status.isTerminal = true -> (view.database t).tasks.get? id = some task) ∧
    (forall projectId run,
      view.Follows (fun before after => ¬ Database.Starts projectId before after) s t ->
      (view.database s).runOf? projectId = some run ->
      exists next, (view.database t).runOf? projectId = some next ∧
        next.taskId = run.taskId ∧
        forall time, run.completedAt = some time -> next.completedAt = some time) ∧
    (forall ctx : CommandContext (StateM σ), ctx.Alone view -> forall projectId run,
      (view.database t).runOf? projectId = some run -> run.isRunning = true ->
      view.database ((Command.startCheck ctx projectId false).on t).2 = view.database t ∧
      exists after, (Check.start ctx.vault ctx.clock projectId false).on t =
        (if (view.database t).projects.contains projectId then
          .ok { runId := run.id, taskId := run.taskId, alreadyRunning := true }
        else .error (.missingProject projectId), after) ∧
        view.database after = view.database t) := by
  have hadvances := served_advances hs h
  refine ⟨hadvances.orderly, hadvances.follows, ?_, ?_, ?_, ?_⟩
  · exact fun _ _ hrun => hadvances.run? hrun
  · exact fun _ _ htask hterminal => hadvances.task? htask hterminal
  · exact fun _ _ hunstarted hrun => hadvances.unstarted hunstarted hrun
  · intro ctx halone projectId run hrun hrunning
    exact ⟨Command.startCheck_of_running halone hrun hrunning,
      Check.start_of_running halone.vault halone.reliable halone.now halone.newProcessId hrun
        hrunning⟩

/-!
## A sample
-/

namespace Sample

def commandContext : CommandContext (StateM (MemoryWorld Unit)) where
  vault := checker.vault
  clock := checker.clock
  trail := checker.trail
  settings := pure { Settings.standard with engine := engine }
  connect := fun _ => connect
  depth := checker.depth

theorem commandContext_alone : commandContext.Alone MemoryWorld.view where
  vault := checker_alone.vault
  reliable := MemoryWorld.vault_reliable
  now := checker_alone.now
  newProcessId := checker_alone.newProcessId
  trail := checker_alone.trail
  settings := View.still_pure _
  connect := fun _ => connects.quietly

def idle : MemoryWorld Unit :=
  { memory with database := { database with runs := .empty } }

theorem idle_orderly : (MemoryWorld.view.database idle).Orderly :=
  Database.Keyed.orderly (by decide) (by decide) (by decide) rfl rfl

def queued : MemoryWorld Unit :=
  ((Command.startCheck commandContext 1 false).on idle).2

def requeued : MemoryWorld Unit :=
  ((Command.startCheck commandContext 1 false).on
    ((Command.run commandContext 1 1).on queued).2).2

end Sample

/-- Two checks of the sample's project, of which the second one is still in flight. -/
theorem served_in_order_sample :
    exists run task, Sample.requeued.database.runOf? 1 = some run ∧ run.isRunning = true ∧
      Sample.requeued.database.tasks.get? 1 = some task ∧ task.status = .completed ∧
      Sample.requeued.database.Orderly ∧
      exists after, (Check.start Sample.commandContext.vault Sample.commandContext.clock 1 false).on
        Sample.requeued =
          (.ok { runId := 1, taskId := some 2, alreadyRunning := true }, after) ∧
        after.database = Sample.requeued.database := by
  have hrun : (Sample.requeued.database.runOf? 1).map
      (fun run => (run.isRunning, run.id, run.taskId)) = some (true, 1, some 2) := by
    decide +kernel
  have htask : (Sample.requeued.database.tasks.get? 1).map Task.status = some .completed := by
    decide +kernel
  have hproject : Sample.requeued.database.projects.contains 1 = true := by decide +kernel
  have hserved : Relation.ReflTransGen (Served MemoryWorld.view) Sample.idle Sample.requeued := by
    have hfirst : (MemoryWorld.view.database Sample.idle).IdsRemain := by decide +kernel
    have hsecond : (MemoryWorld.view.database
        ((Command.run Sample.commandContext 1 1).on Sample.queued).2).IdsRemain := by decide +kernel
    exact .tail (.tail (.single (.startCheck Sample.commandContext_alone hfirst 1 false))
      (.run Sample.commandContext_alone 1 1))
      (.startCheck Sample.commandContext_alone hsecond 1 false)
  -- The world must not be computed from here on.
  generalize Sample.requeued = requeued at hrun htask hproject hserved ⊢
  rcases Option.map_eq_some_iff.mp hrun with ⟨run, hrun, hkeys⟩
  rcases Option.map_eq_some_iff.mp htask with ⟨task, htask, hstatus⟩
  rcases Prod.mk.inj hkeys with ⟨hrunning, hids⟩
  rcases Prod.mk.inj hids with ⟨hid, howner⟩
  rcases served_in_order Sample.idle_orderly hserved with ⟨horderly, _, _, _, _, hkept⟩
  rcases hkept Sample.commandContext Sample.commandContext_alone 1 run hrun hrunning with
    ⟨_, after, hstart, hafter⟩
  change _ = (if requeued.database.projects.contains 1 then _ else _, after) at hstart
  rw [hproject, hid, howner] at hstart
  exact ⟨run, task, hrun, hrunning, htask, hstatus, horderly, after, hstart, hafter⟩

/-- A world with a run in flight of which the project is gone. -/
def Sample.orphaned : MemoryWorld Unit :=
  { memory with database := { Database.fresh with
      runs := .ofList [(1, { Database.startedRun 7 1 time with id := 1 })]
      tasks := .ofList [(1, { Database.queuedTask 7 "process" time with id := 1 })] } }

/-- For a project that is gone a start gives no ids, although its run is in flight. -/
theorem start_refused_when_orphaned :
    Sample.orphaned.database.Orderly ∧
    (exists run, Sample.orphaned.database.runOf? 7 = some run ∧ run.isRunning = true) ∧
    ((Check.start Sample.commandContext.vault Sample.commandContext.clock 7 false).on
      Sample.orphaned).1 = .error (.missingProject 7) := by
  have hruns : forall id run, Sample.orphaned.database.runs.get? id = some run ->
      id = 1 ∧ run = { Database.startedRun 7 1 Sample.time with id := 1 } := by
    intro id run hget
    have hmem := List.mem_singleton.mp (OrderedMap.get?_eq_some_iff.mp hget)
    exact Prod.mk.inj hmem
  have htasks : forall id task, Sample.orphaned.database.tasks.get? id = some task ->
      id = 1 ∧ task = { Database.queuedTask 7 "process" Sample.time with id := 1 } := by
    intro id task hget
    have hmem := List.mem_singleton.mp (OrderedMap.get?_eq_some_iff.mp hget)
    exact Prod.mk.inj hmem
  have hkeyed : Sample.orphaned.database.Keyed := by decide
  refine ⟨⟨hkeyed, by decide, by decide, by decide, by decide, ?_, ?_, ?_⟩, ⟨_, rfl, rfl⟩, rfl⟩
  · intro id other run run' hrun hrun' _
    exact (hruns id run hrun).1.trans (hruns other run' hrun').1.symm
  · intro id run hrun
    rcases hruns id run hrun with ⟨_, rfl⟩
    exact ⟨1, _, rfl, rfl, rfl⟩
  · intro id task htask
    rcases htasks id task htask with ⟨rfl, rfl⟩
    exact iff_of_true rfl ⟨1, _, rfl, rfl, rfl⟩

end Whereabouts
