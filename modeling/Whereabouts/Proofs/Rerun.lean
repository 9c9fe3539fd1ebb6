import Whereabouts.Proofs.Accounting
import Whereabouts.Proofs.Settling

/-!
# Reruns

With fixed answers, a check brings every item to one destination, which does not
depend on the time, on what is cached, or on how many items an earlier check had
already brought there.
-/

namespace Whereabouts

variable {σ ω : Type} {view : View σ ω}

/-!
## Findings with fixed answers
-/

section Findings

variable {surveyor : Surveyor (StateM ω)} {answers : Storage Id} {provenance : Provenance}
  {origin : Database} {unread : Fault -> Prop}

/-- A finding that says where the item settles. -/
def Finding.Settles (finding : Finding) (surveyor : Surveyor Id) (provenance : Provenance)
    (origin : Database) : Prop :=
  exists item time, origin.tracked? finding.key = some item ∧
    finding.result =
      (surveyor.settled provenance item (item.location.touched time)).mapError Fault.storage

theorem Surveyor.assess_spec (hfollows : surveyor.storage.Follows answers) (item : Tracked)
    (time : Instant) {start : Caches × ω} (h : Coherent (surveyor.over answers) start.1) :
    Coherent (surveyor.over answers) (surveyor.assess provenance item time start).2.1 ∧
      (surveyor.assess provenance item time start).1 =
        ((surveyor.over answers).settled provenance item
          (item.location.touched time)).mapError Fault.storage := by
  rcases treat_eq_alone (surveyor.over answers) provenance item time h with
    ⟨caches, hcaches, htreat⟩
  have hfixed := (Lockstep.rel_treat hfollows provenance item time start.1 start.2).trans htreat
  have hmove := move_pass (surveyor.over answers) provenance item (item.location.touched time)
  rcases htreated : (surveyor.treat provenance item time start.1).run start.2 with
    ⟨out, final⟩
  rw [htreated] at hfixed
  change out = _ at hfixed
  subst hfixed
  unfold Surveyor.assess
  rw [htreated, ← hmove]
  unfold Step.move
  rcases ((surveyor.over answers).pass provenance item).alone (item.location.touched time) with
    ⟨result, next⟩
  cases result with
  | ok verdict => exact ⟨hcaches, rfl⟩
  | error failure => exact ⟨hcaches, rfl⟩

theorem Assessed.settles (hfollows : surveyor.storage.Follows answers)
    (hreadable : forall fault, ¬ unread fault) {start after : Caches × ω}
    {findings : List Finding}
    (h : Assessed surveyor provenance origin unread start findings after)
    (hstart : Coherent (surveyor.over answers) start.1) :
    Coherent (surveyor.over answers) after.1 ∧
      forall finding, finding ∈ findings ->
        finding.Settles (surveyor.over answers) provenance origin := by
  induction h with
  | nil start => exact ⟨hstart, fun _ hfinding => nomatch hfinding⟩
  | cons first others ih =>
      cases first with
      | unread hfault => exact absurd hfault (hreadable _)
      | checked time hitem =>
          rename_i item
          rcases Surveyor.assess_spec hfollows item time hstart with ⟨hbetween, hresult⟩
          rcases ih hbetween with ⟨hafter, hothers⟩
          refine ⟨hafter, ?_⟩
          intro finding hfinding
          rcases List.mem_cons.mp hfinding with hfirst | hrest
          · subst hfirst
            exact ⟨item, time, hitem, hresult⟩
          · exact hothers finding hrest

end Findings

/-!
## Destinations
-/

section Destinations

variable (surveyor : Surveyor Id) (provenance : Provenance) (projectId : Int64)

/-- Where a pass brings an item, the time of its latest check apart. -/
def goal (item : Tracked) : Except StorageError Location :=
  surveyor.settled provenance item (item.location.timed none)

/-- A location that an item may have while its project is checked: its own, or else the
one that a pass brings it to. -/
def Underway (item : Tracked) (loc : Location) : Prop :=
  loc = item.location ∨
    (Database.eligible projectId item = true ∧
      exists next time, goal surveyor provenance item = .ok next ∧ loc = next.timed time)

/-- Where an item is after a check of its project, the time of its latest check
apart. -/
def destination (item : Tracked) : Location :=
  match Database.eligible projectId item, goal surveyor provenance item with
  | true, .ok next => next.timed none
  | _, _ => item.location.timed none

variable {surveyor provenance projectId}

/-- From everywhere on its way an item is brought to the same place. -/
theorem Underway.settled
    (hpublic : surveyor.engine.isPublicSystem surveyor.engine.publishedSystem = true)
    {item : Tracked} {loc : Location} (h : Underway surveyor provenance projectId item loc)
    (time : Option Instant) :
    surveyor.settled provenance item (loc.timed time) =
      (goal surveyor provenance item).map fun next => next.timed time := by
  rcases h with hloc | ⟨_, next, other, hgoal, hloc⟩
  · rw [hloc]
    exact settled_timed surveyor provenance item (item.location.timed none) time
  · rw [hloc, Location.timed_timed, settled_timed, hgoal, settled_rest hpublic hgoal]

theorem Underway.eligible
    (hpublic : surveyor.engine.isPublicSystem surveyor.engine.publishedSystem = true)
    {item : Tracked} {loc : Location} (h : Underway surveyor provenance projectId item loc) :
    Database.eligible projectId (item.moved loc) = Database.eligible projectId item := by
  rcases h with hloc | ⟨heligible, next, time, hgoal, hloc⟩
  · rw [hloc, Tracked.moved_location]
  · rw [heligible]
    cases item with
    | tileServer server => exact heligible
    | asset asset =>
        rcases Bool.and_eq_true_iff.mp heligible with ⟨hproject, htrackable⟩
        refine Bool.and_eq_true_iff.mpr ⟨hproject, ?_⟩
        rcases Bool.or_eq_true_iff.mp htrackable with hpath | htype
        · have hnext := settled_originPath hpublic hgoal hpath
          rw [hloc]
          exact Bool.or_eq_true_iff.mpr (Or.inl hnext)
        · exact Bool.or_eq_true_iff.mpr (Or.inr htype)

theorem Underway.of_not_eligible {item : Tracked} {loc : Location}
    (h : Underway surveyor provenance projectId item loc)
    (heligible : Database.eligible projectId item = false) :
    loc.timed none = destination surveyor provenance projectId item := by
  unfold destination
  rcases h with hloc | ⟨htrue, _⟩
  · rw [hloc, heligible]
  · rw [heligible] at htrue
    cases htrue

theorem Underway.of_error {item : Tracked} {loc : Location} {failure : StorageError}
    (h : Underway surveyor provenance projectId item loc)
    (hgoal : goal surveyor provenance item = .error failure) :
    loc.timed none = destination surveyor provenance projectId item := by
  unfold destination
  rcases h with hloc | ⟨_, next, time, hok, _⟩
  · rw [hloc, hgoal]
    cases Database.eligible projectId item <;> rfl
  · rw [hgoal] at hok
    cases hok

theorem destination_of_ok {item : Tracked} {next : Location}
    (heligible : Database.eligible projectId item = true)
    (hgoal : goal surveyor provenance item = .ok next) (time : Option Instant) :
    (next.timed time).timed none = destination surveyor provenance projectId item := by
  unfold destination
  rw [heligible, hgoal]
  rfl

/-- A database between the start of a check and its end, however often it was
interrupted. -/
structure Between (surveyor : Surveyor Id) (provenance : Provenance) (projectId : Int64)
    (origin db : Database) : Prop where
  sources : origin.SameSources db
  items : forall key, Option.Rel
    (fun item now => exists loc,
      now = item.moved loc ∧ Underway surveyor provenance projectId item loc)
    (origin.tracked? key) (db.tracked? key)

/-- A finding that brings an item of the project to its goal. -/
def Finding.Reaches (finding : Finding) (surveyor : Surveyor Id) (provenance : Provenance)
    (projectId : Int64) (origin : Database) : Prop :=
  exists item time, origin.tracked? finding.key = some item ∧
    Database.eligible projectId item = true ∧
    finding.result =
      ((goal surveyor provenance item).map fun next => next.timed time).mapError Fault.storage

variable {origin db after : Database}

theorem Between.start (surveyor : Surveyor Id) (provenance : Provenance) (projectId : Int64)
    (origin : Database) : Between surveyor provenance projectId origin origin where
  sources := Database.SameSources.refl origin
  items := by
    intro key
    cases origin.tracked? key with
    | none => exact .none
    | some item => exact .some ⟨item.location, (Tracked.moved_location item).symm, Or.inl rfl⟩

theorem Between.of_some (h : Between surveyor provenance projectId origin db) {key : ItemKey}
    {now : Tracked} (hnow : db.tracked? key = some now) :
    exists item loc, origin.tracked? key = some item ∧ now = item.moved loc ∧
      Underway surveyor provenance projectId item loc := by
  have hitems := h.items key
  rw [hnow] at hitems
  rcases hitem : origin.tracked? key with _ | item
  · rw [hitem] at hitems
    cases hitems
  · rw [hitem] at hitems
    cases hitems with
    | some hloc =>
        rcases hloc with ⟨loc, hloc⟩
        exact ⟨item, loc, rfl, hloc⟩

theorem Between.sameButRuns (h : Between surveyor provenance projectId origin db)
    (hbook : db.SameButRuns after) : Between surveyor provenance projectId origin after where
  sources := h.sources.trans hbook.sameSources
  items := by
    intro key
    rw [hbook.sameItems key]
    exact h.items key

theorem Between.keyed (hkeyed : origin.Keyed)
    (h : Between surveyor provenance projectId origin db) : db.Keyed := by
  apply hkeyed.of_key_eq h.sources.projects
  intro key now hnow
  rcases h.of_some hnow with ⟨item, loc, hitem, hmoved, _⟩
  rw [hmoved, Tracked.key_moved]
  exact hkeyed.key_eq hitem

theorem Between.mem_work_iff
    (hpublic : surveyor.engine.isPublicSystem surveyor.engine.publishedSystem = true)
    (hkeyed : origin.Keyed) (h : Between surveyor provenance projectId origin db)
    (key : ItemKey) :
    key ∈ db.work projectId <->
      exists item, origin.tracked? key = some item ∧
        Database.eligible projectId item = true := by
  rw [Database.mem_work_iff (h.keyed hkeyed)]
  constructor
  · intro hmem
    rcases hmem with ⟨now, hnow, heligible⟩
    rcases h.of_some hnow with ⟨item, loc, hitem, hmoved, hunderway⟩
    refine ⟨item, hitem, ?_⟩
    rw [← hunderway.eligible hpublic, ← hmoved]
    exact heligible
  · intro hmem
    rcases hmem with ⟨item, hitem, heligible⟩
    have hitems := h.items key
    rw [hitem] at hitems
    rcases hnow : db.tracked? key with _ | now
    · rw [hnow] at hitems
      cases hitems
    · rcases h.of_some hnow with ⟨other, loc, hother, hmoved, hunderway⟩
      rw [hitem] at hother
      cases hother
      refine ⟨now, rfl, ?_⟩
      rw [hmoved, hunderway.eligible hpublic]
      exact heligible

theorem Finding.Settles.reaches
    (hpublic : surveyor.engine.isPublicSystem surveyor.engine.publishedSystem = true)
    (h : Between surveyor provenance projectId origin db) {finding : Finding}
    (hsettles : finding.Settles surveyor provenance db)
    (heligible : forall now, db.tracked? finding.key = some now ->
      Database.eligible projectId now = true) :
    finding.Reaches surveyor provenance projectId origin := by
  rcases hsettles with ⟨now, time, hnow, hresult⟩
  rcases h.of_some hnow with ⟨item, loc, hitem, hmoved, hunderway⟩
  refine ⟨item, some time, hitem, ?_, ?_⟩
  · rw [← hunderway.eligible hpublic, ← hmoved]
    exact heligible now hnow
  · rw [hresult, hmoved, Tracked.location_moved, settled_moved]
    exact congrArg (Except.mapError Fault.storage) (hunderway.settled hpublic (some time))

theorem Between.reached (h : Between surveyor provenance projectId origin db)
    {findings : List Finding}
    (hfindings : forall finding, finding ∈ findings ->
      finding.Reaches surveyor provenance projectId origin)
    (hreached : Database.Reached db projectId findings after) :
    Between surveyor provenance projectId origin after := by
  rcases hreached with ⟨written, hwritten, hstage⟩
  refine ⟨h.sources.trans hstage.sources, ?_⟩
  intro key
  have hitems := h.items key
  rw [hstage.moved key]
  rcases hnow : db.tracked? key with _ | now
  · rw [hnow] at hitems
    exact hitems
  · rcases h.of_some hnow with ⟨item, loc, hitem, hmoved, hunderway⟩
    rw [hitem]
    cases hfound : found written key with
    | none => exact .some ⟨loc, hmoved, hunderway⟩
    | some next =>
        rcases mem_of_found_eq_some hfound with ⟨finding, hmem, hkey, hresult⟩
        rcases hfindings finding (hwritten.subset hmem) with
          ⟨other, time, hother, heligible, hreaches⟩
        rw [hkey, hitem] at hother
        cases hother
        rw [hresult] at hreaches
        cases hgoal : goal surveyor provenance item with
        | error failure =>
            rw [hgoal] at hreaches
            cases hreaches
        | ok place =>
            rw [hgoal] at hreaches
            cases hreaches
            refine .some ⟨place.timed time, ?_, Or.inr ⟨heligible, place, time, hgoal, rfl⟩⟩
            rw [hmoved]
            exact Tracked.moved_moved _ _ _

end Destinations

/-!
## Checks on the way
-/

theorem Database.provenance_of_sameSources {origin db : Database} {projectId userId other : Int64}
    {setup again : Setup} (h : origin.SameSources db)
    (hsetup : origin.setup projectId userId = .ok setup)
    (hagain : db.setup projectId other = .ok again) :
    again.provenance = setup.provenance := by
  rcases of_setup_eq_ok hsetup with ⟨hproject, _, _, hclouds⟩
  rcases of_setup_eq_ok hagain with ⟨hproject', _, _, hclouds'⟩
  rw [h.projects, hproject] at hproject'
  unfold Setup.provenance
  rw [hclouds', hclouds, h.pointClouds, Option.some.inj hproject']

/-- What a check has done when it ends as completed: every item is at its destination,
and the failures are of the items that have none. -/
structure Converged (surveyor : Surveyor Id) (provenance : Provenance) (projectId : Int64)
    (origin : Database) (outcome : CheckOutcome) (after : Database) : Prop where
  locations : forall key,
    (after.location? key).map (fun loc => loc.timed none) =
      (origin.tracked? key).map (destination surveyor provenance projectId)
  failures : forall key, key ∈ outcome.failures.map ItemFailure.key <->
    exists item failure, origin.tracked? key = some item ∧
      Database.eligible projectId item = true ∧
      goal surveyor provenance item = .error failure

section Settled

variable {checker : Checker (StateM σ)} {surveyor : Surveyor Id} {provenance : Provenance}
  {projectId : Int64} {origin db after : Database} {setup : Setup} {findings : List Finding}
  {outcome : CheckOutcome}

/-- An item whose finding reaches its goal is at its destination, and an item without a
finding was there before. -/
theorem Underway.destination_of_found {item : Tracked} {loc : Location}
    (h : Underway surveyor provenance projectId item loc) {key : ItemKey}
    (hitem : origin.tracked? key = some item) (hnodup : (findings.map Finding.key).Nodup)
    (hmem : key ∈ findings.map Finding.key <-> Database.eligible projectId item = true)
    (hreaches : forall finding, finding ∈ findings ->
      finding.Reaches surveyor provenance projectId origin) :
    (Tracked.movedBy (found findings key) (item.moved loc)).location.timed none =
      destination surveyor provenance projectId item := by
  cases heligible : Database.eligible projectId item with
  | false =>
      have hnot : key ∉ findings.map Finding.key := by
        rw [hmem, heligible]
        exact Bool.false_ne_true
      rw [found_of_not_mem hnot]
      simp only [Tracked.movedBy_none, Tracked.location_moved]
      exact h.of_not_eligible heligible
  | true =>
      rcases List.mem_map.mp (hmem.mpr heligible) with ⟨finding, hfinding, hkey⟩
      rcases hreaches finding hfinding with ⟨other, time, hother, _, hresult⟩
      rw [hkey, hitem] at hother
      cases hother
      rw [← hkey, found_of_mem hnodup hfinding]
      unfold Finding.move
      cases hgoal : goal surveyor provenance item with
      | error failure =>
          rw [hresult, hgoal]
          simp only [Except.map, Except.mapError, Tracked.movedBy_none, Tracked.location_moved]
          exact h.of_error hgoal
      | ok next =>
          rw [hresult, hgoal]
          simp only [Except.map, Except.mapError, if_true, Tracked.movedBy_some,
            Tracked.location_moved]
          exact destination_of_ok heligible hgoal time

theorem Finding.Reaches.failed_iff {finding : Finding} {item : Tracked}
    (h : finding.Reaches surveyor provenance projectId origin)
    (hitem : origin.tracked? finding.key = some item) :
    finding.failed = true <-> exists failure, goal surveyor provenance item = .error failure := by
  rcases h with ⟨other, time, hother, _, hresult⟩
  rw [hitem] at hother
  cases hother
  unfold Finding.failed
  rw [hresult]
  cases goal surveyor provenance item with
  | error failure => exact ⟨fun _ => ⟨failure, rfl⟩, fun _ => rfl⟩
  | ok next =>
      constructor
      · intro hfailed
        cases hfailed
      · intro hfailure
        rcases hfailure with ⟨_, hfailure⟩
        cases hfailure

theorem Settled.converged (h : Settled checker db setup findings outcome after)
    (hpublic : surveyor.engine.isPublicSystem surveyor.engine.publishedSystem = true)
    (hkeyed : origin.Keyed) (hbetween : Between surveyor provenance projectId origin db)
    (hkeys : findings.map Finding.key = db.work projectId)
    (hreaches : forall finding, finding ∈ findings ->
      finding.Reaches surveyor provenance projectId origin) :
    Converged surveyor provenance projectId origin outcome after := by
  have hnodup : (findings.map Finding.key).Nodup := by
    rw [hkeys]
    exact Database.nodup_work (hbetween.keyed hkeyed) projectId
  have hmem := hbetween.mem_work_iff hpublic hkeyed
  rw [← hkeys] at hmem
  constructor
  · intro key
    have hitems := hbetween.items key
    unfold Database.location?
    rw [h.moved key]
    rcases hnow : db.tracked? key with _ | now
    · rw [hnow] at hitems
      cases hitem : origin.tracked? key with
      | none => rfl
      | some item =>
          rw [hitem] at hitems
          cases hitems
    · rcases hbetween.of_some hnow with ⟨item, loc, hitem, hmoved, hunderway⟩
      have hkey := hmem key
      simp only [hitem, Option.some.injEq, exists_eq_left'] at hkey
      rw [hitem, hmoved]
      exact congrArg some (hunderway.destination_of_found hitem hnodup hkey hreaches)
  · intro key
    rw [h.failures.keys, List.mem_map]
    constructor
    · intro hfailed
      rcases hfailed with ⟨finding, hfinding, hkey⟩
      rcases List.mem_filter.mp hfinding with ⟨hfinding, hfailed⟩
      have hreach := hreaches finding hfinding
      rcases id hreach with ⟨item, time, hitem, heligible, _⟩
      rcases (hreach.failed_iff hitem).mp hfailed with ⟨failure, hgoal⟩
      rw [hkey] at hitem
      exact ⟨item, failure, hitem, heligible, hgoal⟩
    · intro hgoal
      rcases hgoal with ⟨item, failure, hitem, heligible, hgoal⟩
      rcases List.mem_map.mp ((hmem key).mpr ⟨item, hitem, heligible⟩) with
        ⟨finding, hfinding, hkey⟩
      rw [← hkey] at hitem
      have hfailed := ((hreaches finding hfinding).failed_iff hitem).mpr ⟨failure, hgoal⟩
      exact ⟨finding, List.mem_filter.mpr ⟨hfinding, hfailed⟩, hkey⟩

end Settled

section Checks

variable {checker : Checker (StateM σ)} {remote : Storage (StateM ω)} {answers : Storage Id}
  {connect : String -> Attempt (StateM σ) (Storage (StateM σ))} {origin : Database}
  {projectId userId : Int64} {setup : Setup}

/-- A check from a database on the way stays on the way, however it ends. -/
theorem Checker.conduct_between (halone : checker.Alone view)
    (hreadable : checker.vault.Readable) (hconnects : Connects connect view remote)
    (hfollows : remote.Follows answers)
    (hpublic : checker.engine.isPublicSystem checker.engine.publishedSystem = true)
    (hkeyed : origin.Keyed) (hsetup : origin.setup projectId userId = .ok setup)
    {s : σ} (hbetween : Between (checker.surveyor answers) setup.provenance projectId origin
      (view.database s))
    (other : Int64) {externalIds : OrderedMap String (Option String)}
    (hagreeing : Agreeing answers externalIds) :
    exists result known after,
      (checker.conduct projectId other externalIds connect).run s = ((result, known), after) ∧
      Agreeing answers known ∧
      view.Keeps (Between (checker.surveyor answers) setup.provenance projectId origin) s after ∧
      forall outcome, result = .ok outcome -> outcome.status = .completed ->
        Converged (checker.surveyor answers) setup.provenance projectId origin outcome
          (view.database after) := by
  have hcoherent : Coherent (checker.surveyor answers) (Sweep.start externalIds).caches :=
    Agreeing.coherent hagreeing
  have hkeyed' := hbetween.keyed hkeyed
  rcases conduct_spec halone hconnects projectId other externalIds s hkeyed' with
    ⟨result, findings, caches, after, hrun, hkeeps, hcases⟩
  rcases hcases with ⟨hnone, hcaches, _, hfailed⟩ | ⟨again, hagain, hassessed, hkeys, hend⟩
  · refine ⟨result, caches.externalIds, after, hrun, ?_, ?_, ?_⟩
    · rw [hcaches]
      exact hagreeing
    · refine hkeeps.mono fun db hdb => hbetween.reached ?_ hdb
      intro finding hfinding
      rw [hnone] at hfinding
      cases hfinding
    · intro outcome hok hcompleted
      rw [hfailed outcome hok] at hcompleted
      cases hcompleted
  · have hprovenance := Database.provenance_of_sameSources hbetween.sources hsetup hagain
    have hwork := (Database.of_setup_eq_ok hagain).2.1
    rcases hassessed.settles hfollows hreadable hcoherent with ⟨hcoherent', hsettles⟩
    have hreaches : forall finding, finding ∈ findings ->
        finding.Reaches (checker.surveyor answers) setup.provenance projectId origin := by
      intro finding hfinding
      have hsettled := hsettles finding hfinding
      rw [hprovenance] at hsettled
      refine Finding.Settles.reaches hpublic hbetween hsettled ?_
      intro now hnow
      have hmem := hkeys.subset (List.mem_map_of_mem hfinding)
      rw [hwork, Database.mem_work_iff hkeyed'] at hmem
      rcases hmem with ⟨item, hitem, heligible⟩
      rw [hnow] at hitem
      cases hitem
      exact heligible
    refine ⟨result, caches.externalIds, after, hrun, hcoherent'.externalIds, ?_, ?_⟩
    · exact hkeeps.mono fun db hdb => hbetween.reached hreaches hdb
    · intro outcome hok hcompleted
      rcases hend outcome hok hcompleted with ⟨hall, hsettled⟩
      rw [hwork] at hall
      exact hsettled.converged hpublic hkeyed hbetween hall hreaches

theorem Between.started (halone : checker.Alone view) {surveyor : Surveyor Id}
    {provenance : Provenance} {s after : σ}
    (h : Between surveyor provenance projectId origin (view.database s)) {force : Bool}
    {result : Except Fault StartedCheck}
    (hstart : (Check.start checker.vault checker.clock projectId force).on s = (result, after)) :
    Between surveyor provenance projectId origin (view.database after) := by
  have hpreserves : view.Preserves (Between surveyor provenance projectId origin)
      (Check.start checker.vault checker.clock projectId force).run := by
    apply View.preserves_attempt_bind (View.preserves_effect (halone.newProcessId.preserves _))
    intro processId
    apply View.preserves_attempt_bind (View.preserves_effect (halone.now.preserves _))
    intro time
    apply Vault.preserves_transaction halone.vault
    intro db started after hdb hstart
    exact hdb.sameButRuns (Database.of_startCheck_eq_ok hstart)
  have hkeeps := (hpreserves s h).1
  change view.Keeps _ s ((Check.start checker.vault checker.clock projectId force).on s).2 at hkeeps
  rw [hstart] at hkeeps
  exact hkeeps.database

/-- Checks of a project, one after the other, until one ends as completed.  Each knows
the external ids that the one before it left, or none, and in between the check may be
started again. -/
inductive Concluded (checker : Checker (StateM σ))
    (connect : String -> Attempt (StateM σ) (Storage (StateM σ))) (projectId userId : Int64) :
    OrderedMap String (Option String) -> σ -> CheckOutcome -> σ -> Prop
  | done {carried externalIds known : OrderedMap String (Option String)} {s after : σ}
      {outcome : CheckOutcome} (hids : externalIds = .empty ∨ externalIds = carried)
      (hrun : (checker.conduct projectId userId externalIds connect).run s =
        ((.ok outcome, known), after))
      (hcompleted : outcome.status = .completed) :
      Concluded checker connect projectId userId carried s outcome after
  | again {carried externalIds known : OrderedMap String (Option String)}
      {s between after : σ} {result : Except Fault CheckOutcome} {outcome : CheckOutcome}
      (hids : externalIds = .empty ∨ externalIds = carried)
      (hrun : (checker.conduct projectId userId externalIds connect).run s =
        ((result, known), between))
      (hunfinished : forall ended, result = .ok ended -> ended.status ≠ .completed)
      (rest : Concluded checker connect projectId userId known between outcome after) :
      Concluded checker connect projectId userId carried s outcome after
  | restarted {carried : OrderedMap String (Option String)} {s between after : σ}
      {result : Except Fault StartedCheck} {force : Bool} {outcome : CheckOutcome}
      (hstart : (Check.start checker.vault checker.clock projectId force).on s =
        (result, between))
      (rest : Concluded checker connect projectId userId carried between outcome after) :
      Concluded checker connect projectId userId carried s outcome after

theorem Agreeing.of_carried {externalIds carried : OrderedMap String (Option String)}
    (h : Agreeing answers carried) (hids : externalIds = .empty ∨ externalIds = carried) :
    Agreeing answers externalIds := by
  rcases hids with hempty | hcarried
  · rw [hempty]
    exact fun _ _ hid => nomatch hid
  · rw [hcarried]
    exact h

theorem Concluded.converged (halone : checker.Alone view) (hreadable : checker.vault.Readable)
    (hconnects : Connects connect view remote) (hfollows : remote.Follows answers)
    (hpublic : checker.engine.isPublicSystem checker.engine.publishedSystem = true)
    (hkeyed : origin.Keyed) (hsetup : origin.setup projectId userId = .ok setup)
    {other : Int64} {carried : OrderedMap String (Option String)} {s after : σ}
    {outcome : CheckOutcome}
    (h : Concluded checker connect projectId other carried s outcome after)
    (hagreeing : Agreeing answers carried)
    (hbetween : Between (checker.surveyor answers) setup.provenance projectId origin
      (view.database s)) :
    Converged (checker.surveyor answers) setup.provenance projectId origin outcome
      (view.database after) := by
  -- Every check stays on the way, so that the last one starts there, too.
  induction h with
  | done hids hrun hcompleted =>
      rcases Checker.conduct_between halone hreadable hconnects hfollows hpublic hkeyed hsetup
        hbetween other (hagreeing.of_carried hids) with
        ⟨result, known, final, hrun', _, _, hconverged⟩
      rw [hrun] at hrun'
      cases hrun'
      exact hconverged _ rfl hcompleted
  | again hids hrun hunfinished rest ih =>
      rcases Checker.conduct_between halone hreadable hconnects hfollows hpublic hkeyed hsetup
        hbetween other (hagreeing.of_carried hids) with
        ⟨result, known, final, hrun', hknown, hkeeps, _⟩
      rw [hrun] at hrun'
      cases hrun'
      exact ih hknown hkeeps.database
  | restarted hstart rest ih =>
      exact ih hagreeing (hbetween.started halone hstart)

end Checks

/-- From every database that a completed check saved on its way, or that it left, a
forced restart and further checks until one is completed lead to the same locations,
the times of the latest checks apart, and to failures of the same items. -/
theorem restart_converges {τ υ : Type} {checker : Checker (StateM σ)}
    {remote : Storage (StateM ω)} {answers : Storage Id}
    {connect : String -> Attempt (StateM σ) (Storage (StateM σ))}
    (halone : checker.Alone view) (hreadable : checker.vault.Readable)
    (hconnects : Connects connect view remote) (hfollows : remote.Follows answers)
    (hpublic : checker.engine.isPublicSystem checker.engine.publishedSystem = true)
    {projectId userId : Int64} {externalIds known : OrderedMap String (Option String)}
    {s after : σ} {outcome : CheckOutcome} (hkeyed : (view.database s).Keyed)
    (hagreeing : Agreeing answers externalIds)
    (hrun : (checker.conduct projectId userId externalIds connect).run s =
      ((.ok outcome, known), after))
    (hcompleted : outcome.status = .completed)
    {view' : View τ υ} {checker' : Checker (StateM τ)} {remote' : Storage (StateM υ)}
    {connect' : String -> Attempt (StateM τ) (Storage (StateM τ))}
    (halone' : checker'.Alone view') (hreadable' : checker'.vault.Readable)
    (hconnects' : Connects connect' view' remote') (hfollows' : remote'.Follows answers)
    (hengine : checker'.engine = checker.engine) (hdepth : checker'.depth = checker.depth)
    {new : List Database} (hnew : view.saved after = new ++ view.saved s)
    {t restarted after' : τ}
    (hsaved : view'.database t ∈ new ∨ view'.database t = view.database after)
    {started : StartedCheck}
    (hstart : (Check.start checker'.vault checker'.clock projectId true).on t =
      (.ok started, restarted))
    {userId' : Int64} {carried : OrderedMap String (Option String)} {outcome' : CheckOutcome}
    (hcarried : carried = known ∨ Agreeing answers carried)
    (hconcluded : Concluded checker' connect' projectId userId' carried restarted outcome'
      after') :
    (forall key, ((view'.database after').location? key).map (fun loc => loc.timed none) =
      ((view.database after).location? key).map (fun loc => loc.timed none)) ∧
    (forall key, key ∈ outcome'.failures.map ItemFailure.key <->
      key ∈ outcome.failures.map ItemFailure.key) := by
  rcases conduct_accounts halone hconnects hkeyed hrun hcompleted with ⟨setup, _, _, hsetup, _⟩
  rcases Checker.conduct_between halone hreadable hconnects hfollows hpublic hkeyed hsetup
    (Between.start _ _ projectId _) userId hagreeing with
    ⟨result, learned, final, hrun', hlearned, hkeeps, hend⟩
  rw [hrun] at hrun'
  cases hrun'
  have hfirst := hend outcome rfl hcompleted
  have hinterrupted : Between (checker.surveyor answers) setup.provenance projectId
      (view.database s) (view'.database t) := by
    rcases hsaved with hmem | hlast
    · rcases hkeeps.saved with ⟨saved, hsaved, hbetween⟩
      have hsame : new = saved := List.append_cancel_right (hnew.symm.trans hsaved)
      rw [hsame] at hmem
      exact hbetween _ hmem
    · rw [hlast]
      exact hkeeps.database
  have hsurveyor : checker'.surveyor answers = checker.surveyor answers := by
    unfold Checker.surveyor
    rw [hengine, hdepth]
  have hpublic' : checker'.engine.isPublicSystem checker'.engine.publishedSystem = true := by
    rw [hengine]
    exact hpublic
  have hagreeing' : Agreeing answers carried := by
    rcases hcarried with hknown | hcarried
    · rw [hknown]
      exact hlearned
    · exact hcarried
  rw [← hsurveyor] at hinterrupted hfirst
  have hlater := (Concluded.restarted hstart hconcluded).converged halone' hreadable'
    hconnects' hfollows' hpublic' hkeyed hsetup hagreeing' hinterrupted
  constructor
  · intro key
    rw [hlater.locations key, hfirst.locations key]
  · intro key
    rw [hlater.failures key, hfirst.failures key]

/-- The sample's check, interrupted when it had just brought its first item to its
destination, and started again. -/
theorem restart_converges_sample :
    exists outcome known after started outcome' known' after',
      Sample.check Sample.memory = ((.ok outcome, known), after) ∧
      Sample.interrupted.database ∈ after.saved ∧
      Sample.interrupted.database.tracked? ⟨.asset, 1⟩ ≠
        Sample.database.tracked? ⟨.asset, 1⟩ ∧
      Sample.interrupted.database.tracked? ⟨.asset, 2⟩ =
        Sample.database.tracked? ⟨.asset, 2⟩ ∧
      Sample.restart.1 = .ok started ∧
      Sample.check Sample.restart.2 = ((.ok outcome', known'), after') ∧
      outcome'.status = .completed ∧
      (forall key, (after'.database.location? key).map (fun loc => loc.timed none) =
        (after.database.location? key).map (fun loc => loc.timed none)) ∧
      (forall key, key ∈ outcome'.failures.map ItemFailure.key <->
        key ∈ outcome.failures.map ItemFailure.key) := by
  have hcompleted : (Sample.check Sample.memory).1.1.toOption.map CheckOutcome.status =
      some .completed := by decide +kernel
  have hlength : 5 < (Sample.check Sample.memory).2.saved.length := by decide +kernel
  have hfirst : Sample.interrupted.database.tracked? ⟨.asset, 1⟩ ≠
      Sample.database.tracked? ⟨.asset, 1⟩ := by decide +kernel
  have hsecond : Sample.interrupted.database.tracked? ⟨.asset, 2⟩ =
      Sample.database.tracked? ⟨.asset, 2⟩ := by decide +kernel
  have hstarted : Sample.restart.1.toOption.isSome := by decide +kernel
  have hcompleted' : (Sample.check Sample.restart.2).1.1.toOption.map CheckOutcome.status =
      some .completed := by decide +kernel
  have hpublic : Sample.checker.engine.isPublicSystem Sample.checker.engine.publishedSystem =
      true := by decide
  have hkeyed : (MemoryWorld.view.database Sample.memory).Keyed := by decide
  have hagreeing : Agreeing Sample.answers .empty := fun _ _ h => nomatch h
  have hsaved : Sample.interrupted.database ∈ (Sample.check Sample.memory).2.saved := by
    unfold Sample.interrupted
    rw [List.getD_eq_getElem?_getD, List.getElem?_eq_getElem hlength]
    exact List.getElem_mem hlength
  have hrestart : Sample.restart = (Check.start Sample.checker.vault Sample.checker.clock 1
      true).on Sample.interrupted := rfl
  rcases hrun : Sample.check Sample.memory with ⟨⟨_ | outcome, known⟩, after⟩
  · rw [hrun] at hcompleted
    cases hcompleted
  rcases hstart : Sample.restart with ⟨_ | started, restarted⟩
  · rw [hstart] at hstarted
    cases hstarted
  rw [hstart] at hcompleted' hrestart
  rcases hrerun : Sample.check restarted with ⟨⟨_ | outcome', known'⟩, after'⟩
  · rw [hrerun] at hcompleted'
    cases hcompleted'
  rw [hrun] at hcompleted hsaved
  rw [hrerun] at hcompleted'
  -- The state of the second memory must not be computed from here on.
  generalize Sample.interrupted = interrupted at hsaved hfirst hsecond hrestart ⊢
  refine ⟨outcome, known, after, started, outcome', known', after', rfl, hsaved, hfirst,
    hsecond, rfl, rfl, Option.some.inj hcompleted', ?_⟩
  exact restart_converges Sample.checker_alone MemoryWorld.vault_readable Sample.connects
    (Storage.answering_follows Sample.answers) hpublic hkeyed hagreeing hrun
    (Option.some.inj hcompleted) Sample.checker_alone MemoryWorld.vault_readable Sample.connects
    (Storage.answering_follows Sample.answers) rfl rfl (List.append_nil _).symm
    (Or.inl hsaved) hrestart.symm (Or.inr hagreeing)
    (.done (Or.inl rfl) hrerun (Option.some.inj hcompleted'))

end Whereabouts
