import Whereabouts.Proofs.Progress
import Whereabouts.Proofs.Timeless

/-!
# Checks apart from their times

What two checks of one database find is compared with every time that a check writes
left out.  The findings determine the database that a completed check leaves, and its
outcome, but for these times.
-/

namespace Whereabouts

variable {σ ω : Type}

/-!
## Times left out

A time stays recognizable as one that was written.
-/

def Location.clockless (loc : Location) : Location :=
  loc.timed (loc.checkedAt.map fun _ => default)

def Asset.clockless (row : Asset) : Asset :=
  { row with location := row.location.clockless }

def TileServer.clockless (row : TileServer) : TileServer :=
  { row with location := row.location.clockless }

def Tracked.clockless : Tracked -> Tracked
  | .asset row => .asset row.clockless
  | .tileServer row => .tileServer row.clockless

def Run.clockless (run : Run) : Run :=
  { run with completedAt := run.completedAt.map fun _ => default }

def Task.clockless (task : Task) : Task :=
  { task with updated := task.updated.map fun _ => default }

/-- The database with every time left out that a check writes. -/
def Database.clockless (db : Database) : Database :=
  { db with
    assets := db.assets.mapValues fun _ row => row.clockless
    tileServers := db.tileServers.mapValues fun _ row => row.clockless
    runs := db.runs.mapValues fun _ run => run.clockless
    tasks := db.tasks.mapValues fun _ task => task.clockless }

def Finding.clockless (finding : Finding) : Finding where
  key := finding.key
  result := finding.result.map Location.clockless

theorem Location.clockless_timed (loc : Location) {time : Instant} (other : Instant)
    (h : loc.checkedAt = some time) : (loc.timed (some other)).clockless = loc.clockless := by
  unfold clockless
  rw [h]
  rfl

theorem Tracked.clockless_movedBy (move : Option Location) (item : Tracked) :
    (item.movedBy move).clockless =
      ((move.map Location.clockless).map item.moved).getD item.clockless := by
  cases move <;> cases item <;> rfl

theorem Table.mapValues_congr {α β : Type} {a b : Table α} {f : α -> β}
    (h : forall id, (a.get? id).map f = (b.get? id).map f) :
    a.mapValues (fun _ => f) = b.mapValues fun _ => f := by
  apply OrderedMap.ext_get?
  intro id
  rw [OrderedMap.get?_mapValues, OrderedMap.get?_mapValues]
  exact h id

namespace Database

variable {a b : Database}

theorem clockless_eq (hschema : b.schemaVersion = a.schemaVersion) (hsources : SameSources a b)
    (hsequences : b.sequences = a.sequences)
    (hitems : forall key,
      (b.tracked? key).map Tracked.clockless = (a.tracked? key).map Tracked.clockless)
    (hruns : forall id, (b.runs.get? id).map Run.clockless = (a.runs.get? id).map Run.clockless)
    (htasks : forall id,
      (b.tasks.get? id).map Task.clockless = (a.tasks.get? id).map Task.clockless) :
    b.clockless = a.clockless := by
  have hassets : (b.assets.mapValues fun _ => Asset.clockless) =
      a.assets.mapValues fun _ => Asset.clockless := by
    apply Table.mapValues_congr
    intro id
    have hitem := hitems ⟨.asset, id⟩
    simp only [tracked?, Option.map_map] at hitem
    apply Option.map_injective (fun _ _ h => Tracked.asset.inj h)
    rw [Option.map_map, Option.map_map]
    exact hitem
  have hservers : (b.tileServers.mapValues fun _ => TileServer.clockless) =
      a.tileServers.mapValues fun _ => TileServer.clockless := by
    apply Table.mapValues_congr
    intro id
    have hitem := hitems ⟨.tileServer, id⟩
    simp only [tracked?, Option.map_map] at hitem
    apply Option.map_injective (fun _ _ h => Tracked.tileServer.inj h)
    rw [Option.map_map, Option.map_map]
    exact hitem
  rcases hsources with ⟨hprojects, husers, hclouds⟩
  simp only [clockless, hschema, hprojects, husers, hclouds, hsequences, hassets, hservers,
    Table.mapValues_congr hruns, Table.mapValues_congr htasks]

end Database

/-!
## Findings
-/

theorem Finding.move_clockless (finding : Finding) (key : ItemKey) :
    finding.clockless.move key = (finding.move key).map Location.clockless := by
  unfold Finding.move Finding.clockless
  cases finding.result with
  | error fault => rfl
  | ok loc =>
      by_cases hkey : key = finding.key
      · simp [hkey, Except.map]
      · simp [hkey, Except.map]

theorem found_clockless (findings : List Finding) (key : ItemKey) :
    found (findings.map Finding.clockless) key =
      (found findings key).map Location.clockless := by
  induction findings with
  | nil => rfl
  | cons first rest ih =>
      rw [List.map_cons, found, found, ih, Finding.move_clockless]
      cases found rest key <;> rfl

theorem Assess.clockless_eq {surveyor : Surveyor (StateM ω)} {size : Nat}
    {provenance : Provenance} {origin : Database} {unread : Fault -> Prop}
    (hreadable : forall fault, ¬ unread fault) {start after after' : Caches × ω}
    {finding finding' : Finding}
    (h : Assess surveyor provenance origin unread start finding after)
    (h' : Assess (surveyor.batching size) provenance origin unread start finding' after')
    (hkey : finding'.key = finding.key) :
    after' = after ∧ finding'.clockless = finding.clockless := by
  cases h with
  | unread hfault => exact absurd hfault (hreadable _)
  | checked time hitem =>
      cases h' with
      | unread hfault => exact absurd hfault (hreadable _)
      | checked time' hitem' =>
          change _ = _ at hkey
          subst hkey
          rw [hitem] at hitem'
          cases hitem'
          rw [Surveyor.assess_batching provenance _ time time' start]
          refine ⟨rfl, ?_⟩
          rcases hassess : surveyor.assess provenance _ time start with ⟨result, after⟩
          cases result with
          | error fault => rfl
          | ok loc =>
              exact congrArg (fun next => Finding.mk _ (.ok next))
                (loc.clockless_timed time' (Surveyor.checkedAt_of_assess hassess))

/-- Two checks that go through the same items with the same remote storage leave it, and
their caches, in the same state, and find the same but for the times. -/
theorem Assessed.clockless_eq {surveyor : Surveyor (StateM ω)} {size : Nat}
    {provenance : Provenance} {origin : Database} {unread : Fault -> Prop}
    (hreadable : forall fault, ¬ unread fault) {start after after' : Caches × ω}
    {findings findings' : List Finding}
    (h : Assessed surveyor provenance origin unread start findings after)
    (h' : Assessed (surveyor.batching size) provenance origin unread start findings' after')
    (hkeys : findings'.map Finding.key = findings.map Finding.key) :
    after' = after ∧ findings'.map Finding.clockless = findings.map Finding.clockless := by
  induction h generalizing findings' with
  | nil start =>
      cases h' with
      | nil => exact ⟨rfl, rfl⟩
      | cons first others => cases hkeys
  | cons first others ih =>
      cases h' with
      | nil => cases hkeys
      | cons first' others' =>
          rw [List.map_cons, List.map_cons, List.cons.injEq] at hkeys
          rcases first.clockless_eq hreadable first' hkeys.1 with ⟨rfl, hfirst⟩
          rcases ih others' hkeys.2 with ⟨hafter, hrest⟩
          rw [List.map_cons, List.map_cons, hfirst, hrest]
          exact ⟨hafter, rfl⟩

/-!
## Failures
-/

theorem Finding.failed_clockless (finding : Finding) :
    finding.clockless.failed = finding.failed := by
  unfold Finding.failed Finding.clockless
  cases finding.result <;> rfl

theorem Finding.clockless_of_failed {finding : Finding} (h : finding.failed = true) :
    finding.clockless = finding := by
  rcases finding with ⟨key, _ | loc⟩
  · rfl
  · cases h

theorem filter_failed_clockless (findings : List Finding) :
    (findings.map Finding.clockless).filter Finding.failed =
      findings.filter Finding.failed := by
  induction findings with
  | nil => rfl
  | cons first rest ih =>
      rw [List.map_cons, List.filter_cons, List.filter_cons, ih, Finding.failed_clockless]
      split
      · rename_i hfailed
        rw [Finding.clockless_of_failed hfailed]
      · rfl

theorem Reports.unique {checker : Checker (StateM σ)} {origin : Database} {finding : Finding}
    {failure failure' : ItemFailure} (hreadable : checker.vault.Readable)
    (h : Reports checker origin finding failure) (h' : Reports checker origin finding failure') :
    failure' = failure := by
  have hpath : forall failure, Reports checker origin finding failure -> failure.path =
      ((origin.location? finding.key).bind Location.originPath).getD "unknown" := by
    intro failure h
    rcases h.path with hpath | ⟨_, hunreadable⟩
    · exact hpath
    · exact absurd hreadable hunreadable
  rcases h.error with ⟨fault, hresult, herror⟩
  rcases h'.error with ⟨fault', hresult', herror'⟩
  rw [hresult] at hresult'
  cases hresult'
  rcases failure with ⟨key, path, error⟩
  rcases failure' with ⟨key', path', error'⟩
  rw [ItemFailure.mk.injEq]
  exact ⟨h'.key.trans h.key.symm, (hpath _ h').trans (hpath _ h).symm,
    herror'.trans herror.symm⟩

theorem Reported.unique {checker : Checker (StateM σ)} {origin : Database}
    {findings findings' : List Finding} {failures failures' : List ItemFailure}
    (hreadable : checker.vault.Readable)
    (hfindings : findings'.map Finding.clockless = findings.map Finding.clockless)
    (h : Reported checker origin findings failures)
    (h' : Reported checker origin findings' failures') : failures' = failures := by
  have hfailed : findings'.filter Finding.failed = findings.filter Finding.failed := by
    rw [← filter_failed_clockless findings', hfindings, filter_failed_clockless]
  unfold Reported at h h'
  rw [hfailed] at h'
  generalize findings.filter Finding.failed = failed at h h'
  induction h generalizing failures' with
  | nil =>
      cases h'
      rfl
  | cons hreports _ ih =>
      cases h' with
      | cons hreports' hrest' => rw [hreports.unique hreadable hreports', ih hrest']

/-!
## The end of a completed check
-/

/-- A completed check with the run and the task as they are in the end. -/
structure Rounded (checker : Checker (StateM σ)) (origin : Database) (setup : Setup)
    (findings : List Finding) (outcome : CheckOutcome) (after : Database) : Prop
    extends Settled checker origin setup findings outcome after where
  projectId : outcome.projectId = setup.project.id
  status : outcome.status = .completed
  message : outcome.message =
    Checker.finalMessage outcome.totalItems (UInt64.ofNat outcome.failures.length)
  sameButCheck : Database.SameButCheck setup.project.id setup.run.taskId origin after
  ended : forall run, after.runOf? setup.project.id = some run -> run.completedAt.isSome = true
  task : forall id, setup.run.taskId = some id -> exists task, after.tasks.get? id = some task ∧
    task.status = .completed ∧ task.latestMessage = some outcome.message ∧
      task.updated.isSome = true

theorem Run.Continues.clockless_eq {origin run run' : Run} (h : origin.Continues run)
    (h' : origin.Continues run') (htotal : run'.totalItems = run.totalItems)
    (hchecked : run'.itemsChecked = run.itemsChecked)
    (hfailed : run'.itemsFailed = run.itemsFailed) (hended : run.completedAt.isSome = true)
    (hended' : run'.completedAt.isSome = true) : run'.clockless = run.clockless := by
  rcases Option.isSome_iff_exists.mp hended with ⟨time, htime⟩
  rcases Option.isSome_iff_exists.mp hended' with ⟨time', htime'⟩
  unfold clockless
  rw [Run.mk.injEq, htime, htime']
  exact ⟨h'.id.trans h.id.symm, h'.projectId.trans h.projectId.symm,
    h'.taskId.trans h.taskId.symm, h'.startedAt.trans h.startedAt.symm, rfl, htotal, hchecked,
    hfailed⟩

theorem Task.Continues.clockless_eq {origin task task' : Task} (h : origin.Continues task)
    (h' : origin.Continues task') (hstatus : task'.status = task.status)
    (hmessage : task'.latestMessage = task.latestMessage) (hupdated : task.updated.isSome = true)
    (hupdated' : task'.updated.isSome = true) : task'.clockless = task.clockless := by
  rcases Option.isSome_iff_exists.mp hupdated with ⟨time, htime⟩
  rcases Option.isSome_iff_exists.mp hupdated' with ⟨time', htime'⟩
  unfold clockless
  rw [Task.mk.injEq, htime, htime']
  exact ⟨h'.id.trans h.id.symm, h'.processId.trans h.processId.symm, hstatus,
    h'.description.trans h.description.symm, h'.projectId.trans h.projectId.symm, hmessage,
    h'.created.trans h.created.symm, rfl⟩

namespace Rounded

variable {checker : Checker (StateM σ)} {origin after after' : Database} {setup : Setup}
  {findings findings' : List Finding} {outcome outcome' : CheckOutcome}

theorem runEntry (h : Rounded checker origin setup findings outcome after)
    (hrun : origin.runOf? setup.project.id = some setup.run) :
    exists key run, origin.runEntry? setup.project.id = some (key, setup.run) ∧
      after.runs.get? key = some run ∧ setup.run.Continues run ∧
      outcome.runId = some setup.run.id ∧ run.totalItems = outcome.totalItems ∧
      run.itemsChecked = outcome.itemsChecked ∧
      run.itemsFailed = UInt64.ofNat outcome.failures.length ∧
      run.completedAt.isSome = true := by
  rcases Database.runOf?_eq_some_iff.mp hrun with ⟨key, hentry⟩
  rcases h.sameButCheck.runEntry? hentry with ⟨run, hnext, hcontinues⟩
  have hrunOf := Database.runOf?_eq_some_iff.mpr ⟨key, hnext⟩
  rcases h.run with ⟨other, hother, hid, htotal, hchecked, hfailed⟩
  rw [hrunOf] at hother
  cases hother
  rw [hcontinues.id] at hid
  exact ⟨key, run, hentry, (Database.of_runEntry?_eq_some hnext).1, hcontinues, hid, htotal,
    hchecked, hfailed, h.ended run hrunOf⟩

theorem outcome_eq (hreadable : checker.vault.Readable)
    (hrun : origin.runOf? setup.project.id = some setup.run)
    (hfindings : findings'.map Finding.clockless = findings.map Finding.clockless)
    (h : Rounded checker origin setup findings outcome after)
    (h' : Rounded checker origin setup findings' outcome' after') : outcome' = outcome := by
  have hfailures := Reported.unique hreadable hfindings h.failures h'.failures
  have htotal := h'.totalItems.trans h.totalItems.symm
  have hchecked : outcome'.itemsChecked = outcome.itemsChecked := by
    rw [h'.itemsChecked, h.itemsChecked, htotal, hfailures]
  have hmessage : outcome'.message = outcome.message := by
    rw [h'.message, h.message, htotal, hfailures]
  rcases h.runEntry hrun with ⟨_, _, _, _, _, hid, _⟩
  rcases h'.runEntry hrun with ⟨_, _, _, _, _, hid', _⟩
  have hproject := h'.projectId.trans h.projectId.symm
  have hstatus := h'.status.trans h.status.symm
  rcases outcome with ⟨projectId, runId, status, total, checked, failures, message⟩
  rcases outcome' with ⟨projectId', runId', status', total', checked', failures', message'⟩
  rw [CheckOutcome.mk.injEq]
  exact ⟨hproject, hid'.trans hid.symm, hstatus, htotal, hchecked, hfailures, hmessage⟩

theorem clockless_eq (hreadable : checker.vault.Readable)
    (hrun : origin.runOf? setup.project.id = some setup.run)
    (hfindings : findings'.map Finding.clockless = findings.map Finding.clockless)
    (h : Rounded checker origin setup findings outcome after)
    (h' : Rounded checker origin setup findings' outcome' after') :
    after'.clockless = after.clockless := by
  have houtcome := outcome_eq hreadable hrun hfindings h h'
  subst houtcome
  have hsources : Database.SameSources after after' :=
    ⟨h'.sameButCheck.projects.trans h.sameButCheck.projects.symm,
      h'.sameButCheck.users.trans h.sameButCheck.users.symm,
      h'.sameButCheck.pointClouds.trans h.sameButCheck.pointClouds.symm⟩
  apply Database.clockless_eq
    (h'.sameButCheck.schemaVersion.trans h.sameButCheck.schemaVersion.symm)
    hsources (h'.sameButCheck.sequences.trans h.sameButCheck.sequences.symm)
  · intro key
    have hfound : (found findings' key).map Location.clockless =
        (found findings key).map Location.clockless := by
      rw [← found_clockless, hfindings, found_clockless]
    rw [h.moved key, h'.moved key, Option.map_map, Option.map_map]
    congr 1
    funext item
    exact (item.clockless_movedBy _).trans
      (by rw [hfound]; exact (item.clockless_movedBy _).symm)
  · intro id
    rcases h.runEntry hrun with ⟨key, run, hentry, hget, hcontinues, _, htotal, hchecked,
      hfailed, hended⟩
    rcases h'.runEntry hrun with ⟨key', run', hentry', hget', hcontinues', _, htotal', hchecked',
      hfailed', hended'⟩
    rw [hentry] at hentry'
    cases hentry'
    have hkey : origin.runKey? setup.project.id = some key :=
      congrArg (Option.map Prod.fst) hentry
    by_cases hid : id = key
    · rw [hid, hget, hget']
      exact congrArg some (hcontinues.clockless_eq hcontinues' (htotal'.trans htotal.symm)
        (hchecked'.trans hchecked.symm) (hfailed'.trans hfailed.symm) hended hended')
    · have hother : ¬ origin.runKey? setup.project.id = some id := by
        rw [hkey]
        exact fun heq => hid (Option.some.inj heq).symm
      rw [(h.sameButCheck.runs id).resolve_right fun htouched => hother htouched.1,
        (h'.sameButCheck.runs id).resolve_right fun htouched => hother htouched.1]
  · intro id
    by_cases hid : setup.run.taskId = some id
    · rcases h.task id hid with ⟨task, hget, hstatus, hmessage, hupdated⟩
      rcases h'.task id hid with ⟨task', hget', hstatus', hmessage', hupdated'⟩
      rcases h.sameButCheck.of_task? hget with ⟨old, hold, hcontinues⟩
      rcases h'.sameButCheck.of_task? hget' with ⟨old', hold', hcontinues'⟩
      rw [hold] at hold'
      cases hold'
      rw [hget, hget']
      exact congrArg some (hcontinues.clockless_eq hcontinues' (hstatus'.trans hstatus.symm)
        (hmessage'.trans hmessage.symm) hupdated hupdated')
    · rw [(h.sameButCheck.tasks id).resolve_right fun htouched => hid htouched.1,
        (h'.sameButCheck.tasks id).resolve_right fun htouched => hid htouched.1]

end Rounded

end Whereabouts
