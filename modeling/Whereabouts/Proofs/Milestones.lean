import Whereabouts.Proofs.CheckSteps

/-!
# Milestones

A check that is interrupted leaves the last database that it saved.  Until its run ends
the counters there are those of the batches that were closed, and the items of these
batches, or of the next one as well, are where they were found.  The run ends when every
item that was found is in its place.
-/

namespace Whereabouts

variable {σ ω α : Type} {view : View σ ω}

/-- The counters of a run are the numbers of items that succeeded and that failed in some
findings. -/
structure Run.Counts (run : Run) (total : Nat) (counted : List Finding) : Prop where
  totalItems : run.totalItems.toNat = total
  itemsChecked : run.itemsChecked.toNat = counted.countP fun finding => !finding.failed
  itemsFailed : run.itemsFailed.toNat = counted.countP Finding.failed

namespace Database

/-- The items that succeeded in some findings are where they were found, and all others
are where they were before. -/
structure Places (origin : Database) (written : List Finding) (db : Database) : Prop where
  succeeded : forall finding loc, finding ∈ written -> finding.result = .ok loc ->
    db.tracked? finding.key = (origin.tracked? finding.key).map (Tracked.moved loc)
  others : forall key,
    (forall finding, finding ∈ written -> finding.key = key -> finding.failed = true) ->
    db.tracked? key = origin.tracked? key

/-- The counters of a project's run do not go back. -/
def CountsOn (projectId : Int64) (earlier later : Database) : Prop :=
  exists old new, earlier.runOf? projectId = some old ∧ later.runOf? projectId = some new ∧
    old.itemsChecked ≤ new.itemsChecked ∧ old.itemsFailed ≤ new.itemsFailed

/-- What a check that goes through its items in batches of a size may be left at, with
`k` batches behind it. -/
structure Milestone (origin : Database) (projectId : Int64) (size : Nat)
    (findings : List Finding) (k : Nat) (db : Database) : Prop where
  batches : k * size ≤ findings.length
  run : exists run, db.runOf? projectId = some run ∧ run.completedAt = none ∧
    run.Counts findings.length (findings.take (k * size)) ∧
    run.itemsChecked.toNat + run.itemsFailed.toNat = k * size
  items : exists j, (j = k * size ∨ j = min ((k + 1) * size) findings.length) ∧
    origin.Places (findings.take j) db

/-- What a check saves when it ends its run, after the milestones on the way, the latest
first. -/
structure MilestonesSaved (origin : Database) (projectId : Int64) (size : Nat)
    (findings : List Finding) (closing way : List Database) : Prop where
  begins : way ≠ []
  milestones : forall db, db ∈ way -> exists k, Milestone origin projectId size findings k db
  closes : closing ≠ []
  ends : forall db, db ∈ closing ->
    (exists run, db.runOf? projectId = some run ∧ run.completedAt.isSome = true ∧
      run.Counts findings.length findings) ∧ origin.Places findings db
  ascends : (closing ++ way).Pairwise fun later earlier => CountsOn projectId earlier later

end Database

/-!
## Counting
-/

theorem Reported.length_eq {checker : Checker (StateM σ)} {origin : Database}
    {findings : List Finding} {failures : List ItemFailure}
    (h : Reported checker origin findings failures) :
    failures.length = findings.countP Finding.failed := by
  rw [List.countP_eq_length_filter]
  exact (List.Forall₂.length_eq h).symm

theorem length_eq_countP_add (findings : List Finding) :
    findings.length = (findings.countP fun finding => !finding.failed) +
      findings.countP Finding.failed := by
  have hlength := List.length_eq_countP_add_countP Finding.failed (l := findings)
  have hnot : (findings.countP fun finding => decide ¬finding.failed = true) =
      findings.countP fun finding => !finding.failed := by
    congr 1
    funext finding
    cases finding.failed <;> rfl
  omega

theorem counts_of_length {findings : List Finding} {total : Nat} {run : Run}
    (hlength : findings.length ≤ total) (htotal : total < UInt64.size)
    (htotalItems : run.totalItems.toNat = total)
    (hchecked : run.itemsChecked =
      UInt64.ofNat findings.length - UInt64.ofNat (findings.countP Finding.failed))
    (hfailed : run.itemsFailed = UInt64.ofNat (findings.countP Finding.failed)) :
    run.Counts total findings := by
  have hsum := length_eq_countP_add findings
  have hbound : forall n, n ≤ findings.length -> (UInt64.ofNat n).toNat = n :=
    fun n hn => UInt64.toNat_ofNat_of_lt' (Nat.lt_of_le_of_lt (Nat.le_trans hn hlength) htotal)
  refine ⟨htotalItems, ?_, ?_⟩
  · rw [hchecked, hsum, UInt64.ofNat_add, UInt64.add_sub_cancel]
    exact hbound _ (by omega)
  · rw [hfailed]
    exact hbound _ (by omega)

theorem Run.Counts.le {a b : Run} {total total' : Nat} {early late : List Finding}
    (ha : a.Counts total early) (hb : b.Counts total' late) (h : early <+: late) :
    a.itemsChecked ≤ b.itemsChecked ∧ a.itemsFailed ≤ b.itemsFailed := by
  rw [UInt64.le_iff_toNat_le, UInt64.le_iff_toNat_le, ha.itemsChecked, ha.itemsFailed,
    hb.itemsChecked, hb.itemsFailed]
  exact ⟨h.sublist.countP_le, h.sublist.countP_le⟩

namespace Database

variable {origin db after a b c : Database} {projectId : Int64} {size total : Nat}
  {findings counted written more : List Finding}

theorem Moved.places (h : origin.Moved (found written) db)
    (hnodup : (written.map Finding.key).Nodup) : origin.Places written db where
  succeeded := by
    intro finding loc hmem hresult
    have hmove : finding.move finding.key = some loc := by
      unfold Finding.move
      rw [hresult]
      exact if_pos rfl
    rw [h finding.key, found_of_mem hnodup hmem, hmove]
    rfl
  others := by
    intro key hfailed
    apply h.tracked?_of_none
    cases hfound : found written key with
    | none => rfl
    | some loc =>
        rcases mem_of_found_eq_some hfound with ⟨finding, hmem, hkey, hresult⟩
        have hfail := hfailed finding hmem hkey
        unfold Finding.failed at hfail
        rw [hresult] at hfail
        cases hfail

theorem CountsOn.trans (h : CountsOn projectId a b) (h' : CountsOn projectId b c) :
    CountsOn projectId a c := by
  rcases h with ⟨old, middle, hold, hmiddle, hchecked, hfailed⟩
  rcases h' with ⟨middle', new, hmiddle', hnew, hchecked', hfailed'⟩
  rw [hmiddle] at hmiddle'
  cases hmiddle'
  exact ⟨old, new, hold, hnew, UInt64.le_trans hchecked hchecked',
    UInt64.le_trans hfailed hfailed'⟩

theorem countsOn_of_runs {run : Run} (hrun : db.runOf? projectId = some run)
    (hruns : after.runs = db.runs) : CountsOn projectId db after := by
  refine ⟨run, run, hrun, ?_, UInt64.le_refl _, UInt64.le_refl _⟩
  rw [runOf?, hruns]
  exact hrun

/-!
## On the way
-/

/-- An open run with the counters of some findings. -/
def Tallied (total : Nat) (counted : List Finding) (run : Option Run) : Prop :=
  exists stored, run = some stored ∧ stored.completedAt = none ∧ stored.Counts total counted

/-- An ended run with the counters of some findings. -/
def Closed (total : Nat) (counted : List Finding) (run : Option Run) : Prop :=
  exists stored, run = some stored ∧ stored.completedAt.isSome = true ∧
    stored.Counts total counted

/-- A milestone while some of the findings are still to be made. -/
def Midway (origin : Database) (projectId : Int64) (size total : Nat)
    (findings : List Finding) (db : Database) : Prop :=
  exists k counted written, counted <+: written ∧ written <+: findings ∧
    counted.length = k * size ∧
    (written = counted ∨ written.length = min ((k + 1) * size) total) ∧
    Stage origin projectId (Tallied total counted) written db

/-- From one milestone to the next. -/
def MilestoneStep (origin : Database) (projectId : Int64) (size total : Nat)
    (findings : List Finding) (before after : Database) : Prop :=
  Midway origin projectId size total findings after ∧ CountsOn projectId before after

theorem Midway.mono (h : Midway origin projectId size total findings db)
    (hmore : findings <+: more) : Midway origin projectId size total more db := by
  rcases h with ⟨k, counted, written, hbehind, hfront, hmidway⟩
  exact ⟨k, counted, written, hbehind, hfront.trans hmore, hmidway⟩

theorem MilestoneStep.mono (h : MilestoneStep origin projectId size total findings a b)
    (hmore : findings <+: more) : MilestoneStep origin projectId size total more a b :=
  ⟨h.1.mono hmore, h.2⟩

theorem Midway.milestone (h : Midway origin projectId size findings.length findings db)
    (hnodup : (findings.map Finding.key).Nodup) :
    exists k, Milestone origin projectId size findings k db := by
  rcases h with ⟨k, counted, written, hbehind, hfront, hfull, hwritten, hstage⟩
  have hcounted := List.prefix_iff_eq_take.mp (hbehind.trans hfront)
  have hmoved := List.prefix_iff_eq_take.mp hfront
  rcases hstage.counted with ⟨run, hrun, hopen, hcounts⟩
  refine ⟨k, ?_, ⟨run, hrun, hopen, ?_, ?_⟩, written.length, ?_, ?_⟩
  · rw [← hfull]
    exact (hbehind.trans hfront).length_le
  · rw [← hfull, ← hcounted]
    exact hcounts
  · rw [hcounts.itemsChecked, hcounts.itemsFailed, ← length_eq_countP_add, hfull]
  · rcases hwritten with hsame | hnext
    · left
      rw [hsame, hfull]
    · exact Or.inr hnext
  · rw [← hmoved]
    exact hstage.moved.places (hnodup.sublist (hfront.sublist.map Finding.key))

theorem Stage.counted_step {update : Run -> Run} {run : Run}
    (h : Stage origin projectId (Tallied total counted) written db)
    (hchange : db.updateRun projectId update = .ok (run, after))
    (hproject : forall run, (update run).projectId = run.projectId) (hmore : counted <+: more)
    (hcounts : forall old, old.Counts total counted -> (update old).Counts total more) :
    exists old, old.completedAt = none ∧ run = update old ∧ run.Counts total more ∧
      CountsOn projectId db after ∧
      Stage origin projectId (fun stored => stored = some run) written after := by
  rcases h.updateRun hproject hchange with ⟨old, hrun, ⟨stored, hstored, hopen, hold⟩, hafter⟩
  cases hstored
  have hnew := hcounts old hold
  rw [← hrun] at hnew
  rcases h.counted with ⟨before, hbefore, _, hcounted⟩
  exact ⟨old, hopen, hrun, hnew, ⟨before, run, hbefore, hafter.counted, hcounted.le hnew hmore⟩,
    hafter⟩

end Database

/-!
## Operations
-/

/-- Where a sweep is that closes every batch: what it counted is what it wrote, some full
batches of findings. -/
structure Sweep.Batched (sweep : Sweep) (checker : Checker (StateM σ)) (view : View σ ω)
    (origin : Database) (projectId : Int64) (size total : Nat) (done batch : List Finding)
    (s : σ) : Prop
    extends sweep.Holds checker view origin projectId (UInt64.ofNat total) done batch s where
  tallied : Database.Tallied total done ((view.database s).runOf? projectId)
  full : exists k, done.length = k * size

/-- What a sweep of some items leaves behind that closes every batch. -/
structure SweptBatches (checker : Checker (StateM σ)) (view : View σ ω)
    (surveyor : Surveyor (StateM ω))
    (setup : Setup) (origin : Database) (size total : Nat) (known : List Finding)
    (keys : List ItemKey) (start : Caches × ω) (s : σ) (next : Sweep) (after : σ)
    (new : List Finding) : Prop where
  assessed : Assessed surveyor setup.provenance origin checker.vault.Unread start new
    (next.caches, view.outside after)
  keys : new.map Finding.key = keys
  follows : view.Follows (Database.MilestoneStep origin setup.project.id size total (known ++ new))
    s after
  ends : exists done batch, done ++ batch = known ++ new ∧ batch.length < size ∧
    next.Batched checker view origin setup.project.id size total done batch after

namespace Checker

variable {checker : Checker (StateM σ)} {origin : Database} {setup : Setup} {projectId : Int64}
  {size total : Nat} {done batch counted written : List Finding} {s after : σ}

theorem updateTask_steps (halone : checker.Alone view) {id : Int64} {message : String}
    {findings : List Finding}
    (hstage : Database.Stage origin projectId (Database.Tallied total counted) written
      (view.database s))
    (hmidway : forall db,
      Database.Stage origin projectId (Database.Tallied total counted) written db ->
        Database.Midway origin projectId size total findings db)
    (h : (Check.updateTask checker.vault checker.clock id .running message).on s =
      (.ok (), after)) :
    Database.Stage origin projectId (Database.Tallied total counted) written
        (view.database after) ∧
      view.Follows (Database.MilestoneStep origin projectId size total findings) s after := by
  rcases Check.of_updateTask_ok halone.vault halone.now h with ⟨time, hchange, hsaved⟩
  have hafter := hstage.updateTask hchange
  rcases hstage.counted with ⟨run, hrun, _⟩
  exact ⟨hafter, .of_step ⟨hmidway _ hafter, Database.countsOn_of_runs hrun
    (Database.of_updateTask_eq_ok hchange).2⟩ hsaved⟩

theorem publish_steps (halone : checker.Alone view) {sweep : Sweep} {k : Nat}
    (hstage : Database.Stage origin setup.project.id (Database.Tallied total done)
      (done ++ batch) (view.database s))
    (hlength : (done ++ batch).length = (k + 1) * size)
    (hle : (done ++ batch).length ≤ total) (htotal : total < UInt64.size)
    (hprocessed : sweep.processed = UInt64.ofNat (done ++ batch).length)
    (hfailures : Reported checker origin (done ++ batch) sweep.failures)
    (h : (checker.publish setup sweep).on s = (.ok (), after)) :
    Database.Stage origin setup.project.id (Database.Tallied total (done ++ batch))
        (done ++ batch) (view.database after) ∧
      view.Follows (Database.MilestoneStep origin setup.project.id size total (done ++ batch))
        s after := by
  have hmidway : forall db,
      Database.Stage origin setup.project.id (Database.Tallied total (done ++ batch))
        (done ++ batch) db ->
        Database.Midway origin setup.project.id size total (done ++ batch) db :=
    fun db hdb => ⟨k + 1, done ++ batch, done ++ batch, List.prefix_refl _,
      List.prefix_refl _, hlength, Or.inl rfl, hdb⟩
  rcases Attempt.of_on_bind_ok h with ⟨run, between, hupdate, hrest⟩
  rcases Vault.of_transaction_ok halone.vault hupdate with ⟨hchange, hsaved, _⟩
  have hcounted : forall old : Run, old.Counts total done ->
      Run.Counts { old with
        itemsChecked := sweep.processed - failedCount sweep
        itemsFailed := failedCount sweep } total (done ++ batch) := by
    intro old hold
    refine counts_of_length hle htotal hold.totalItems ?_ ?_
    · rw [← hprocessed, ← hfailures.length_eq]
      rfl
    · rw [← hfailures.length_eq]
      rfl
  rcases hstage.counted_step hchange (fun _ => rfl) (List.prefix_append done batch) hcounted with
    ⟨old, hopen, hrun, hcounts, hcountsOn, hwritten⟩
  have hbetween : Database.Stage origin setup.project.id
      (Database.Tallied total (done ++ batch)) (done ++ batch) (view.database between) := by
    apply hwritten.weaken
    intro found hfound
    refine ⟨run, hfound, ?_, hcounts⟩
    rw [hrun]
    exact hopen
  have hstep : view.Follows
      (Database.MilestoneStep origin setup.project.id size total (done ++ batch)) s between :=
    .of_step ⟨hmidway _ hbetween, hcountsOn⟩ hsaved
  cases htask : setup.run.taskId with
  | none =>
      rw [htask] at hrest
      cases hrest
      exact ⟨hbetween, hstep⟩
  | some id =>
      rw [htask] at hrest
      rcases updateTask_steps halone hbetween hmidway hrest with ⟨hafter, hfollows⟩
      exact ⟨hafter, hstep.trans hfollows⟩

theorem follows_commit {k : Nat}
    (hstage : Database.Stage origin projectId (Database.Tallied total done) (done ++ batch)
      (view.database after))
    (hfull : done.length = k * size)
    (hlength : (done ++ batch).length = min ((k + 1) * size) total)
    (hruns : (view.database after).runs = (view.database s).runs)
    (hsaved : view.Same s after ∨ view.saved after = view.database after :: view.saved s) :
    view.Follows (Database.MilestoneStep origin projectId size total (done ++ batch)) s after := by
  rcases hsaved with hsame | hsaved
  · exact .of_same hsame
  · rcases hstage.counted with ⟨run, hrun, _⟩
    have hrun' : (view.database s).runOf? projectId = some run := by
      rw [Database.runOf?, ← hruns]
      exact hrun
    refine .of_step ⟨⟨k, done, done ++ batch, List.prefix_append done batch,
      List.prefix_refl _, hfull, Or.inr hlength, hstage⟩, ?_⟩ hsaved
    exact Database.countsOn_of_runs hrun' hruns

theorem closeBatch_steps (halone : checker.Alone view) {sweep next : Sweep}
    (h : sweep.Batched checker view origin setup.project.id size total done batch s)
    (hbatch : batch.length = size) (hle : (done ++ batch).length ≤ total)
    (htotal : total < UInt64.size)
    (hclose : (checker.closeBatch setup sweep).run s = ((.ok (), next), after)) :
    next.Batched checker view origin setup.project.id size total (done ++ batch) [] after ∧
      next.caches = sweep.caches ∧ view.outside after = view.outside s ∧
      view.Follows (Database.MilestoneStep origin setup.project.id size total (done ++ batch))
        s after := by
  rcases closeBatch_spec halone h.toHolds with
    ⟨_, _, _, hspec, hcaches, houtside, _, hholds⟩
  rw [hclose] at hspec
  cases hspec
  rcases h.full with ⟨k, hfull⟩
  have hlength : (done ++ batch).length = (k + 1) * size := by
    rw [List.length_append, hfull, hbatch, Nat.succ_mul]
  rcases Session.commit_cases halone.vault h.session with
    ⟨committed, session, between, hcommit, _, _, ⟨_, rfl, _⟩ |
      ⟨count, rfl, hmoved, hsources, hruns, hsaved⟩⟩
  · unfold closeBatch at hclose
    rw [View.run_bind_of_eq hcommit] at hclose
    cases hclose
  -- The commit and the counters are two transactions: between them the database has the
  -- locations of one batch more than its run has counted.
  have hdone : Database.Stage origin setup.project.id (Database.Tallied total done) done
      (view.database s) := ⟨h.stage.moved, h.stage.sources, h.tallied⟩
  have hwritten := hdone.commit hmoved hsources hruns
  have hearly := follows_commit hwritten hfull (by omega) hruns hsaved
  unfold closeBatch at hclose
  rw [View.run_bind_of_eq hcommit] at hclose
  rcases hpublish : (checker.publish setup { sweep with session := session.expire }).on between
    with ⟨result, final⟩
  dsimp only at hclose
  rw [View.run_bind_of_eq hpublish] at hclose
  cases hclose
  rcases publish_steps halone hwritten hlength hle htotal h.processed h.failures hpublish with
    ⟨hpublished, hlate⟩
  exact ⟨⟨hholds rfl, hpublished.counted, ⟨k + 1, hlength⟩⟩, hcaches, houtside,
    hearly.trans hlate⟩

end Checker

/-!
## Sweeps
-/

theorem mul_add_mod_eq_zero_iff {k size m : Nat} (hpos : 0 < m) (hle : m ≤ size) :
    (k * size + m) % size = 0 <-> m = size := by
  rw [Nat.mul_comm, Nat.mul_add_mod]
  constructor
  · intro hzero
    rcases Nat.lt_or_eq_of_le hle with hlt | hsame
    · rw [Nat.mod_eq_of_lt hlt] at hzero
      omega
    · exact hsame
  · intro hsame
    rw [hsame, Nat.mod_self]

theorem SweptBatches.cons {checker : Checker (StateM σ)} {surveyor : Surveyor (StateM ω)}
    {setup : Setup} {origin : Database} {size total : Nat} {known new : List Finding}
    {finding : Finding} {keys : List ItemKey} {start middle : Caches × ω} {s between after : σ}
    {next : Sweep}
    (hassess : Assess surveyor setup.provenance origin checker.vault.Unread start finding middle)
    (hfollows : view.Follows (Database.MilestoneStep origin setup.project.id size total
      (known ++ [finding])) s between)
    (h : SweptBatches checker view surveyor setup origin size total (known ++ [finding]) keys middle
      between next after new) :
    SweptBatches checker view surveyor setup origin size total known (finding.key :: keys) start s
      next after (finding :: new) := by
  have hlist : known ++ [finding] ++ new = known ++ finding :: new := by
    rw [List.append_assoc]
    rfl
  have hlate := h.follows
  have hends := h.ends
  rw [hlist] at hlate hends
  refine ⟨.cons hassess h.assessed, by rw [List.map_cons, h.keys], ?_, hends⟩
  exact (hfollows.mono fun _ _ hstep => hstep.mono ⟨new, hlist⟩).trans hlate

/-- All batches behind are full, so the count of processed items is a multiple of the size
when the batch that waits is. -/
theorem Sweep.Batched.closes_iff {checker : Checker (StateM σ)} {sweep : Sweep}
    {origin : Database} {projectId : Int64} {size total : Nat} {done batch : List Finding} {s : σ}
    (h : sweep.Batched checker view origin projectId size total done batch s)
    (hpos : 0 < batch.length) (hbatch : batch.length ≤ size)
    (hle : (done ++ batch).length ≤ total) (htotal : total < UInt64.size) :
    sweep.processed.toNat % size = 0 <-> batch.length = size := by
  rcases h.full with ⟨k, hfull⟩
  have hprocessed : sweep.processed.toNat = k * size + batch.length := by
    rw [h.processed, UInt64.toNat_ofNat_of_lt' (Nat.lt_of_le_of_lt hle htotal),
      List.length_append, hfull]
  rw [hprocessed]
  exact mul_add_mod_eq_zero_iff hpos hbatch

section Sweeps

variable {checker : Checker (StateM σ)} {surveyor : Surveyor (StateM σ)}
  {remote : Storage (StateM ω)} {origin : Database} {size total : Nat}

theorem Checker.sweepItem_steps (halone : checker.Alone view)
    (hacts : surveyor.storage.Acts view remote) (setup : Setup) (hkeyed : origin.Keyed)
    {sweep : Sweep} {done batch : List Finding} {s : σ} {key : ItemKey} {item : Tracked}
    (h : sweep.Batched checker view origin setup.project.id size total done batch s)
    (hitem : origin.tracked? key = some item) (hnew : key ∉ done.map Finding.key) :
    exists finding next after,
      (checker.sweepItem surveyor setup.provenance sweep key).run s = (next, after) ∧
      finding.key = key ∧
      Assess (surveyor.over remote) setup.provenance origin checker.vault.Unread
        (sweep.caches, view.outside s) finding (next.caches, view.outside after) ∧
      view.Follows (Database.MilestoneStep origin setup.project.id size total
        (done ++ (batch ++ [finding]))) s after ∧
      next.Batched checker view origin setup.project.id size total done (batch ++ [finding])
        after := by
  rcases sweepItem_spec halone hacts setup.provenance h.toHolds hitem (hkeyed.key_eq hitem) hnew
    with ⟨finding, next, after, hsweep, hfinding, hassess, hdatabase, hsaved, hholds⟩
  refine ⟨finding, next, after, hsweep, hfinding, hassess, .of_unsaved hdatabase hsaved, hholds,
    ?_, h.full⟩
  rw [hdatabase]
  exact h.tallied

theorem Checker.sweepAll_steps
    (halone : checker.Alone view) (hacts : surveyor.storage.Acts view remote)
    (setup : Setup) (hkeyed : origin.Keyed) (hsize : size = max checker.engine.batchSize 1)
    (htotal : total < UInt64.size) (keys : List ItemKey) {sweep next : Sweep}
    {done batch known : List Finding} {s after : σ}
    (h : sweep.Batched checker view origin setup.project.id size total done batch s)
    (hlist : done ++ batch = known) (hbatch : batch.length < size)
    (hitems : forall key, key ∈ keys -> exists item, origin.tracked? key = some item)
    (hnodup : (known.map Finding.key ++ keys).Nodup)
    (hle : known.length + keys.length ≤ total)
    (hrun : (checker.sweepAll surveyor setup keys sweep).run s = ((.ok (), next), after)) :
    exists new, SweptBatches checker view (surveyor.over remote) setup origin size total known keys
      (sweep.caches, view.outside s) s next after new := by
  induction keys generalizing sweep done batch known s with
  | nil =>
      cases hrun
      exact ⟨[], .nil _, rfl, .of_same (View.Same.refl _), done, batch,
        hlist.trans (List.append_nil known).symm, hbatch, h⟩
  | cons key rest ih =>
      rcases hitems key List.mem_cons_self with ⟨item, hitem⟩
      have hnew := not_mem_keys_of_nodup hlist hnodup
      rcases sweepItem_steps halone hacts setup hkeyed h hitem hnew with
        ⟨finding, one, between, hsweep, hfinding, hassess, hearly, hbatched⟩
      subst key
      have hitems' : forall key, key ∈ rest -> exists item, origin.tracked? key = some item :=
        fun key hkey => hitems key (List.mem_cons_of_mem _ hkey)
      have hlist' : done ++ (batch ++ [finding]) = known ++ [finding] := by
        rw [← List.append_assoc, hlist]
      have hnodup' := nodup_keys_snoc hnodup
      have hlength : (batch ++ [finding]).length = batch.length + 1 := List.length_append
      have hle' : (known ++ [finding]).length + rest.length ≤ total := by
        rw [List.length_append, List.length_singleton, Nat.add_assoc, Nat.add_comm 1]
        exact hle
      have hcloses := hbatched.closes_iff (by omega) (by omega)
        (by rw [hlist']; exact Nat.le_of_add_right_le hle') htotal
      rw [hlist'] at hearly
      unfold sweepAll at hrun
      rw [View.run_bind_of_eq hsweep, ← hsize] at hrun
      split at hrun
      · next hclosed =>
        rcases hclose : (checker.closeBatch setup one).run between with ⟨⟨closed, last⟩, final⟩
        rw [View.run_bind_of_eq hclose] at hrun
        cases closed with
        | error fault => cases hrun
        | ok _ =>
            rcases closeBatch_steps halone hbatched (hcloses.mp hclosed)
              (by rw [hlist']; exact Nat.le_of_add_right_le hle') htotal hclose with
              ⟨hlast, hcaches, houtside, hlate⟩
            rw [hlist'] at hlast hlate
            rw [← hcaches, ← houtside] at hassess
            rcases ih hlast (List.append_nil _) (Nat.lt_of_le_of_lt (Nat.zero_le _) hbatch)
              hitems' hnodup' hle' hrun with ⟨new, hsweptBatches⟩
            exact ⟨finding :: new, .cons hassess (hearly.trans hlate) hsweptBatches⟩
      · next hopen =>
        have hbatch' : (batch ++ [finding]).length < size := by
          have hne := mt hcloses.mpr hopen
          omega
        rcases ih hbatched hlist' hbatch' hitems' hnodup' hle' hrun with ⟨new, hsweptBatches⟩
        exact ⟨finding :: new, .cons hassess hearly hsweptBatches⟩

end Sweeps

/-!
## The beginning and the end
-/

namespace Database

/-- From one database of a run that has ended to the next. -/
def EndedStep (origin : Database) (projectId : Int64) (total : Nat) (findings : List Finding)
    (before after : Database) : Prop :=
  Stage origin projectId (Closed total findings) findings after ∧
    CountsOn projectId before after

end Database

namespace Checker

variable {checker : Checker (StateM σ)} {origin : Database} {setup : Setup} {total : Nat}
  {s after : σ}

theorem announce_steps (halone : checker.Alone view) (size : Nat)
    (htotal : setup.work.length < UInt64.size)
    (hstage : Database.Stage origin setup.project.id
      (fun run => exists stored, run = some stored ∧ stored.completedAt = none) []
      (view.database s))
    (h : (checker.announce setup).on s = (.ok (), after)) :
    exists begun, view.saved begun = view.database begun :: view.saved s ∧
      Database.Midway origin setup.project.id size setup.work.length []
        (view.database begun) ∧
      view.Follows (Database.MilestoneStep origin setup.project.id size setup.work.length []) begun
        after ∧
      Database.Stage origin setup.project.id (Database.Tallied setup.work.length []) []
        (view.database after) := by
  have hmidway : forall db,
      Database.Stage origin setup.project.id (Database.Tallied setup.work.length []) [] db ->
        Database.Midway origin setup.project.id size setup.work.length [] db :=
    fun db hdb => ⟨0, [], [], List.prefix_refl _, List.prefix_refl _, (Nat.zero_mul size).symm,
      Or.inl rfl, hdb⟩
  rcases Attempt.of_on_bind_ok h with ⟨run, begun, hupdate, hrest⟩
  rcases Vault.of_transaction_ok halone.vault hupdate with ⟨hchange, hsaved, _⟩
  rcases hstage.updateRun (by intro run; rfl) hchange with
    ⟨_, rfl, ⟨stored, hstored, hopen⟩, hwritten⟩
  cases hstored
  have hbegun : Database.Stage origin setup.project.id
      (Database.Tallied setup.work.length []) [] (view.database begun) := by
    apply hwritten.weaken
    intro found hfound
    exact ⟨_, hfound, hopen, UInt64.toNat_ofNat_of_lt' htotal, rfl, rfl⟩
  refine ⟨begun, hsaved, hmidway _ hbegun, ?_⟩
  cases htask : setup.run.taskId with
  | none =>
      rw [htask] at hrest
      have hsame := (halone.trail _).of_on hrest
      rw [hsame.database]
      exact ⟨.of_same hsame, hbegun⟩
  | some id =>
      rw [htask] at hrest
      rcases Attempt.of_on_bind_ok hrest with ⟨_, noted, hnote, htrail⟩
      rcases updateTask_steps halone hbegun hmidway hnote with ⟨hnoted, hfollows⟩
      have hsame := (halone.trail _).of_on htrail
      rw [hsame.database]
      exact ⟨hfollows.trans (.of_same hsame), hnoted⟩

theorem proclaim_endedSteps (halone : checker.Alone view) {projectId : Int64} {run : Run}
    {failed : UInt64} {message : String} {findings : List Finding}
    (hstage : Database.Stage origin projectId (Database.Closed total findings) findings
      (view.database s))
    (h : (checker.proclaim projectId run failed message).on s = (.ok (), after)) :
    view.Follows (Database.EndedStep origin projectId total findings) s after := by
  have hfollows : view.Follows (fun db noted => exists id time,
      db.updateTask id .completed message time = .ok ((), noted)) s
      ((checker.proclaim projectId run failed message).on s).2 :=
    savesBy_proclaim halone (fun _ id time _ _ hnote => ⟨id, time, hnote⟩) s
  rw [h] at hfollows
  refine (hfollows.keeps hstage ?_).2
  intro before noted hbefore hnote
  rcases hnote with ⟨id, time, hnote⟩
  rcases hbefore.counted with ⟨stored, hstored, _⟩
  have hnoted := hbefore.updateTask hnote
  exact ⟨hnoted, hnoted, Database.countsOn_of_runs hstored
    (Database.of_updateTask_eq_ok hnote).2⟩

/-- The end of a check that closed every batch: everything is written when its run ends, and
from there on nothing changes but what its task says. -/
theorem finish_steps (halone : checker.Alone view) {sweep : Sweep} {size : Nat}
    {done batch findings : List Finding} {outcome : CheckOutcome}
    (h : sweep.Batched checker view origin setup.project.id size setup.work.length done batch s)
    (hlist : done ++ batch = findings) (hlength : findings.length = setup.work.length)
    (hbatch : batch.length < size) (htotal : setup.work.length < UInt64.size)
    (hfinish : (checker.finish setup sweep).on s = (.ok outcome, after)) :
    exists ready ended,
      view.Follows (Database.MilestoneStep origin setup.project.id size setup.work.length
        findings) s ready ∧
      view.saved ended = view.database ended :: view.saved ready ∧
      Database.EndedStep origin setup.project.id setup.work.length findings (view.database ready)
        (view.database ended) ∧
      view.Follows (Database.EndedStep origin setup.project.id setup.work.length findings) ended
        after := by
  subst hlist
  rcases h.full with ⟨k, hfull⟩
  rcases Session.commit_cases halone.vault h.session with
    ⟨committed, session, between, hcommit, _, _, hcases⟩
  have hon : Attempt.on (ExceptT.mk do return (<- sweep.session.commit checker.vault).1) s =
      (committed, between) := View.run_bind_of_eq hcommit
  rcases Attempt.of_on_bind_ok hfinish with ⟨count, _, hcommitted, hrest⟩
  rw [hon] at hcommitted
  cases hcommitted
  rcases hcases with ⟨_, hfault, _⟩ | ⟨_, _, hmoved, hsources, hruns, hsaved⟩
  · cases hfault
  have hdone : Database.Stage origin setup.project.id
      (Database.Tallied setup.work.length done) done (view.database s) :=
    ⟨h.stage.moved, h.stage.sources, h.tallied⟩
  have hwritten := hdone.commit hmoved hsources hruns
  have hcommits : (done ++ batch).length = min ((k + 1) * size) setup.work.length := by
    rw [Nat.succ_mul, ← hlength, List.length_append, hfull]
    omega
  have hfollows := follows_commit hwritten hfull hcommits hruns hsaved
  rcases Attempt.of_on_bind_ok hrest with ⟨time, ready, hnow, hrest⟩
  have hclock := View.Still.of_on (x := Attempt.effect checker.clock.now) halone.now hnow
  rw [← hclock.database] at hwritten
  rcases Attempt.of_on_bind_ok hrest with ⟨run, ended, hupdate, hrest⟩
  rcases Vault.of_transaction_ok halone.vault hupdate with ⟨hchange, hsaved', _⟩
  have hcounted : forall old : Run, old.Counts setup.work.length done ->
      Run.Counts { old with
        completedAt := some time
        itemsChecked := UInt64.ofNat setup.work.length - failedCount sweep
        itemsFailed := failedCount sweep } setup.work.length (done ++ batch) := by
    intro old hold
    refine counts_of_length (Nat.le_of_eq hlength) htotal hold.totalItems ?_ ?_
    · rw [hlength, ← h.failures.length_eq]
      rfl
    · rw [← h.failures.length_eq]
      rfl
  rcases hwritten.counted_step hchange (fun _ => rfl) (List.prefix_append done batch) hcounted
    with ⟨_, _, hrun, hcounts, hcountsOn, hstored⟩
  have hended : Database.Stage origin setup.project.id
      (Database.Closed setup.work.length (done ++ batch)) (done ++ batch)
      (view.database ended) := by
    apply hstored.weaken
    intro found hfound
    refine ⟨run, hfound, ?_, hcounts⟩
    rw [hrun]
    rfl
  refine ⟨ready, ended, hfollows.trans (.of_same hclock), hsaved', ⟨hended, hcountsOn⟩, ?_⟩
  rcases Attempt.of_on_bind_ok hrest with ⟨_, _, hproclaim, hpure⟩
  cases hpure
  exact proclaim_endedSteps halone hended hproclaim

/-!
## Whole checks
-/

variable {remote : Storage (StateM ω)}
  {connect : String -> Attempt (StateM σ) (Storage (StateM σ))} {projectId userId : Int64}
  {externalIds known : OrderedMap String (Option String)} {outcome : CheckOutcome}

theorem of_carryOut_ok
    (h : (checker.carryOut setup externalIds connect).run s = ((.ok outcome, known), after)) :
    exists storage ready sweep mid,
      (checker.prepare setup connect).on s = (.ok storage, ready) ∧
      (checker.sweepAll (checker.surveyor storage) setup setup.work (.start externalIds)).run
        ready = ((.ok (), sweep), mid) ∧
      (checker.finish setup sweep).on mid = (.ok outcome, after) := by
  rcases hprepare : (checker.prepare setup connect).on s with ⟨prepared, ready⟩
  unfold carryOut at h
  rw [View.run_bind_of_eq hprepare] at h
  cases prepared with
  | error fault => cases h
  | ok storage =>
      rcases hsweep : (checker.sweepAll (checker.surveyor storage) setup setup.work
        (.start externalIds)).run ready with ⟨⟨swept, sweep⟩, mid⟩
      dsimp only at h
      rw [View.run_bind_of_eq hsweep] at h
      cases swept with
      | error fault => cases h
      | ok _ =>
          rcases hfinish : (checker.finish setup sweep).on mid with ⟨result, final⟩
          dsimp only at h
          rw [View.run_bind_of_eq hfinish] at h
          cases h
          exact ⟨storage, ready, sweep, mid, rfl, hsweep, hfinish⟩

theorem of_conduct_completed (halone : checker.Alone view)
    (h : (checker.conduct projectId userId externalIds connect).run s =
      ((.ok outcome, known), after))
    (hcompleted : outcome.status = .completed) :
    exists setup ready, (view.database s).setup projectId userId = .ok setup ∧
      view.Same s ready ∧
      (checker.carryOut setup externalIds connect).run ready = ((.ok outcome, known), after) := by
  rcases conduct_cases halone.vault connect projectId userId externalIds s with
    ⟨_, _, _, hrun, hconducted⟩
  rw [h] at hrun
  cases hrun
  cases hconducted with
  | unprepared hsame hfail =>
      rw [fail_status hfail] at hcompleted
      cases hcompleted
  | carried hsame hsetup hcarry => exact ⟨_, _, hsetup, hsame, hcarry⟩
  | broken hsame hsetup hcarry hfail =>
      rw [fail_status hfail] at hcompleted
      cases hcompleted

theorem prepare_steps (halone : checker.Alone view) (hconnects : Connects connect view remote)
    (size : Nat) (htotal : setup.work.length < UInt64.size)
    (externalIds : OrderedMap String (Option String))
    (hstage : Database.Stage origin setup.project.id
      (fun run => exists stored, run = some stored ∧ stored.completedAt = none) []
      (view.database s))
    {storage : Storage (StateM σ)}
    (h : (checker.prepare setup connect).on s = (.ok storage, after)) :
    storage.Acts view remote ∧ view.outside after = view.outside s ∧
      (Sweep.start externalIds).Batched checker view origin setup.project.id size
        setup.work.length [] [] after ∧
      exists begun, view.saved begun = view.database begun :: view.saved s ∧
        Database.Midway origin setup.project.id size setup.work.length []
          (view.database begun) ∧
        view.Follows (Database.MilestoneStep origin setup.project.id size setup.work.length [])
          begun after := by
  rcases Attempt.of_on_bind_ok h with ⟨_, announced, hannounce, hconnect⟩
  rcases announce_steps halone size htotal hstage hannounce with
    ⟨begun, hbegun, hmidway, hfollows, hready⟩
  have hsame := (hconnects.still setup.token).of_on hconnect
  rcases prepare_spec halone hconnects setup (hstage.weaken fun _ _ => trivial) with
    ⟨_, _, hprepared, houtside, _, hstorage⟩
  rw [h] at hprepared
  cases hprepared
  rcases hstorage storage rfl with ⟨hacts, hannounced⟩
  refine ⟨hacts, houtside, ⟨⟨hannounced, Session.Holds.start _, .nil, rfl⟩, ?_, 0, ?_⟩, begun,
    hbegun, hmidway, hfollows.trans (.of_same hsame)⟩
  · rw [hsame.database]
    exact hready.counted
  · exact (Nat.zero_mul size).symm

end Checker

theorem Database.MilestonesSaved.of_courses {origin begun ready last : Database}
    {projectId : Int64} {size : Nat} {findings : List Finding} {way closing : List Database}
    (hnodup : (findings.map Finding.key).Nodup)
    (hbegun : Midway origin projectId size findings.length findings begun)
    (hway : Course (MilestoneStep origin projectId size findings.length findings) begun way ready)
    (hclosing : Course (EndedStep origin projectId findings.length findings) ready closing last)
    (hcloses : closing ≠ []) :
    MilestonesSaved origin projectId size findings closing (way ++ [begun]) := by
  refine ⟨?_, ?_, hcloses, ?_, ?_⟩
  · exact List.append_ne_nil_of_right_ne_nil way (List.cons_ne_nil begun [])
  · intro db hdb
    rcases List.mem_append.mp hdb with hdb | hdb
    · rcases hway.arrives hdb with ⟨before, hmidway, _⟩
      exact hmidway.milestone hnodup
    · rw [List.mem_singleton.mp hdb]
      exact hbegun.milestone hnodup
  · intro db hdb
    rcases hclosing.arrives hdb with ⟨before, hstage, _⟩
    exact ⟨hstage.counted, hstage.moved.places hnodup⟩
  · have hcounts : Course (CountsOn projectId) begun (closing ++ way) last :=
      (hway.mono fun _ _ hstep => hstep.2).append (hclosing.mono fun _ _ hstep => hstep.2)
    rw [← List.append_assoc]
    exact (hcounts.pairwise fun _ _ _ => CountsOn.trans).1

section Checks

variable {checker : Checker (StateM σ)} {remote : Storage (StateM ω)}
  {connect : String -> Attempt (StateM σ) (Storage (StateM σ))}
  {externalIds known : OrderedMap String (Option String)} {s after : σ}
  {outcome : CheckOutcome}

theorem Checker.carryOut_milestonesSaved (halone : checker.Alone view)
    (hconnects : Connects connect view remote) {origin : Database} (hkeyed : origin.Keyed)
    {setup : Setup} (htotal : setup.work.length < UInt64.size)
    (hitems : forall key, key ∈ setup.work -> exists item, origin.tracked? key = some item)
    (hnodup : setup.work.Nodup)
    (hstage : Database.Stage origin setup.project.id
      (fun run => exists stored, run = some stored ∧ stored.completedAt = none) []
      (view.database s))
    (h : (checker.carryOut setup externalIds connect).run s = ((.ok outcome, known), after)) :
    exists findings caches closing way,
      findings.map Finding.key = setup.work ∧
      Assessed (checker.surveyor remote) setup.provenance origin checker.vault.Unread
        ({ Caches.empty with externalIds }, view.outside s) findings
        (caches, view.outside after) ∧
      Reported checker origin findings outcome.failures ∧
      view.saved after = closing ++ way ++ view.saved s ∧
      Database.MilestonesSaved origin setup.project.id (max checker.engine.batchSize 1) findings
        closing way := by
  rcases of_carryOut_ok h with ⟨storage, ready, sweep, mid, hprepare, hsweep, hfinish⟩
  rcases prepare_steps halone hconnects (max checker.engine.batchSize 1) htotal externalIds
    hstage hprepare with ⟨hacts, houtside, hbatched, begun, hbegun, hmidway, hearly⟩
  have hacts' : (checker.surveyor storage).storage.Acts view remote := hacts
  rcases sweepAll_steps halone hacts' setup hkeyed rfl htotal setup.work hbatched rfl
    (Nat.lt_of_lt_of_le Nat.zero_lt_one (Nat.le_max_right _ 1)) hitems hnodup
    (Nat.le_of_eq (Nat.zero_add _)) hsweep with
    ⟨findings, hassessed, hkeys, hsweptBatches, done, batch, hlist, hbatch, hholds⟩
  have hlength : findings.length = setup.work.length := by
    rw [← hkeys, List.length_map]
  rcases finish_spec halone setup hholds.toHolds with ⟨_, _, hfinished, hquiet, _, hend⟩
  rw [hfinish] at hfinished
  cases hfinished
  rw [hlist] at hend
  rw [← hquiet, houtside] at hassessed
  rcases finish_steps halone hholds hlist hlength hbatch htotal hfinish with
    ⟨last, ended, hlast, hsaved, hendedStep, hlate⟩
  have hmore : [] <+: findings := List.nil_prefix
  rcases ((hearly.mono fun _ _ hstep => hstep.mono hmore).trans hsweptBatches).trans hlast with
    ⟨way, hway, hcourse⟩
  rcases hlate with ⟨closing, hclosing, hcourse'⟩
  rw [← hlength] at hmidway hendedStep hcourse hcourse'
  have hnodup' : (findings.map Finding.key).Nodup := by
    rw [hkeys]
    exact hnodup
  refine ⟨findings, sweep.caches, closing ++ [view.database ended],
    way ++ [view.database begun], hkeys, hassessed, (hend outcome rfl).2.failures, ?_,
    .of_courses hnodup' (hmidway.mono hmore) hcourse ((Course.nil.snoc hendedStep).append hcourse')
      ?_⟩
  · rw [hclosing, hsaved, hway, hbegun]
    simp only [List.append_assoc, List.cons_append, List.nil_append]
  · exact List.append_ne_nil_of_right_ne_nil closing (List.cons_ne_nil _ [])

/-- What an interrupted check leaves behind.  Every database that it saves before its run
ends has the counters of the batches that were closed, and it has the locations of these
batches or of one more; when its run ends the locations of all items are there; and the
counters do not go back. -/
theorem conduct_milestones (halone : checker.Alone view)
    (hconnects : Connects connect view remote) {projectId userId : Int64} {run : Run}
    (hkeyed : (view.database s).Keyed)
    (hrun : (view.database s).runOf? projectId = some run) (hrunning : run.isRunning = true)
    (hwork : ((view.database s).work projectId).length < UInt64.size)
    (hconduct : (checker.conduct projectId userId externalIds connect).run s =
      ((.ok outcome, known), after))
    (hcompleted : outcome.status = .completed) :
    exists setup findings caches closing way,
      (view.database s).setup projectId userId = .ok setup ∧
      findings.map Finding.key = setup.work ∧
      Assessed (checker.surveyor remote) setup.provenance (view.database s)
        checker.vault.Unread ({ Caches.empty with externalIds }, view.outside s) findings
        (caches, view.outside after) ∧
      Reported checker (view.database s) findings outcome.failures ∧
      view.saved after = closing ++ way ++ view.saved s ∧
      Database.MilestonesSaved (view.database s) projectId (max checker.engine.batchSize 1) findings
        closing way := by
  rcases Checker.of_conduct_completed halone hconduct hcompleted with
    ⟨setup, early, hsetup, hsame, hcarry⟩
  rcases Database.of_setup_eq_ok hsetup with ⟨hproject, hlist, _, _⟩
  rcases Database.setup_work hkeyed hsetup with ⟨hnodup, hmem⟩
  have hid : setup.project.id = projectId := hkeyed.projects _ _ hproject
  have hitems : forall key, key ∈ setup.work ->
      exists item, (view.database s).tracked? key = some item := by
    intro key hkey
    rcases (hmem key).mp hkey with ⟨item, hitem, _⟩
    exact ⟨item, hitem⟩
  have hstage : Database.Stage (view.database s) setup.project.id
      (fun run => exists stored, run = some stored ∧ stored.completedAt = none) []
      (view.database early) := by
    rw [hsame.database, hid]
    have hstart := Database.Stage.start (view.database s) projectId
    exact ⟨hstart.moved, hstart.sources, run, hrun, Option.isNone_iff_eq_none.mp hrunning⟩
  rw [← hlist] at hwork
  rcases Checker.carryOut_milestonesSaved halone hconnects hkeyed hwork hitems hnodup
    hstage hcarry with
    ⟨findings, caches, closing, way, hkeys, hassessed, hreported, hsaved, hsaves⟩
  rw [hsame.outside] at hassessed
  rw [hsame.saved] at hsaved
  rw [hid] at hsaves
  exact ⟨setup, findings, caches, closing, way, hsetup, hkeys, hassessed, hreported, hsaved,
    hsaves⟩

end Checks

/-- The sample's check, with batches of one item, saves seven databases. -/
theorem conduct_milestones_sample :
    exists outcome known after, Sample.check Sample.memory = ((.ok outcome, known), after) ∧
      outcome.status = .completed ∧ after.saved.length = 7 ∧
      exists setup findings caches closing way,
        Sample.database.setup 1 1 = .ok setup ∧ findings.map Finding.key = setup.work ∧
        Assessed (Sample.checker.surveyor (Storage.answering Sample.answers)) setup.provenance
          Sample.database Sample.checker.vault.Unread (Caches.empty, ()) findings
          (caches, after.outside) ∧
        Reported Sample.checker Sample.database findings outcome.failures ∧
        after.saved = closing ++ way ++ [] ∧
        Database.MilestonesSaved Sample.database 1 1 findings closing way := by
  have hends : (Sample.check Sample.memory).1.1.toOption.map CheckOutcome.status =
      some .completed ∧ (Sample.check Sample.memory).2.saved.length = 7 := by decide +kernel
  rcases hrun : Sample.check Sample.memory with ⟨⟨result, known⟩, after⟩
  rw [hrun] at hends
  cases result with
  | error fault => cases hends.1
  | ok outcome =>
      have hkeyed : Sample.database.Keyed := by decide
      have hcompleted : outcome.status = .completed := Option.some.inj hends.1
      rcases hfound : Sample.database.runOf? 1 with _ | run
      · exact absurd hfound (by decide)
      · have hrunning : (Sample.database.runOf? 1).map Run.isRunning = some true := by decide
        rw [hfound] at hrunning
        exact ⟨outcome, known, after, rfl, hcompleted, hends.2,
          @conduct_milestones _ _ MemoryWorld.view Sample.checker _ _ .empty known Sample.memory
            after outcome Sample.checker_alone Sample.connects 1 1 run hkeyed hfound
            (Option.some.inj hrunning) (by decide) hrun hcompleted⟩

end Whereabouts
