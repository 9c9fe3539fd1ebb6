import Mathlib.Data.List.Nodup
import Whereabouts.Proofs.MemoryWorld
import Whereabouts.Proofs.Sweep

/-!
# Accounting

A check that ends as completed has found something out about every item of its work
list.  Its failures are those of the findings, every other item is where its pass
put it, and the counters add up.
-/

namespace Whereabouts

variable {σ ω : Type} {view : View σ ω}

/-- What a completed check leaves behind: its failures, its counters, and a database
with the locations that were found. -/
structure Settled (checker : Checker (StateM σ)) (origin : Database) (setup : Setup)
    (findings : List Finding) (outcome : CheckOutcome) (after : Database) : Prop where
  failures : Reported checker origin findings outcome.failures
  moved : origin.Moved (found findings) after
  totalItems : outcome.totalItems = UInt64.ofNat setup.work.length
  itemsChecked : outcome.itemsChecked =
    outcome.totalItems - UInt64.ofNat outcome.failures.length
  run : exists run, after.runOf? setup.project.id = some run ∧
    outcome.runId = some run.id ∧ run.totalItems = outcome.totalItems ∧
    run.itemsChecked = outcome.itemsChecked ∧
    run.itemsFailed = UInt64.ofNat outcome.failures.length

namespace Checker

variable {checker : Checker (StateM σ)} {origin : Database}

/-!
## The ends of a check
-/

theorem announce_spec (halone : checker.Alone view) (setup : Setup) {s : σ}
    (h : Database.Stage origin setup.project.id (fun _ => True) [] (view.database s)) :
    exists result after, (checker.announce setup).on s = (result, after) ∧
      view.outside after = view.outside s ∧
      view.Keeps (Database.Reached origin setup.project.id []) s after ∧
      (result = .ok () -> Database.Stage origin setup.project.id
        (Database.announced (UInt64.ofNat setup.work.length)) [] (view.database after)) := by
  rcases Check.updateRun_cases halone.vault h (fun run => { run with
      totalItems := UInt64.ofNat setup.work.length, itemsChecked := 0, itemsFailed := 0 })
      (fun _ => rfl) with
    ⟨first, between, hupdate, houtside, hkeeps, ⟨fault, hfirst⟩ | ⟨old, hfirst, _, hstage⟩⟩
  · subst hfirst
    refine ⟨_, _, Attempt.on_bind_of_error hupdate, houtside, hkeeps, ?_⟩
    intro hok
    cases hok
  · subst hfirst
    have hstage' : Database.Stage origin setup.project.id
        (Database.announced (UInt64.ofNat setup.work.length)) [] (view.database between) := by
      apply hstage.weaken
      intro stored hstored
      rw [hstored]
      rfl
    have hspec : exists result after, (checker.announce setup).on s = (result, after) ∧
        view.Keeps _ between after ∧ _ := View.bind_of_preserves hupdate ?_ hstage'
    · rcases hspec with ⟨result, after, hon, hkeeps', houtside'⟩
      refine ⟨result, after, hon, houtside'.trans houtside, ?_, fun _ => hkeeps'.database⟩
      exact hkeeps.trans (hkeeps'.mono fun db hdb => hdb.reached (List.prefix_refl _))
    · have htrail := fun event => (halone.trail event).preserves
        (Database.Stage origin setup.project.id
          (Database.announced (UInt64.ofNat setup.work.length)) [])
      cases setup.run.taskId with
      | none =>
          exact View.preserves_attempt_bind (View.preserves_attempt_pure ()) fun _ => htrail _
      | some taskId =>
          exact View.preserves_attempt_bind
            (Check.preserves_updateTask halone.vault halone.now taskId _ _) fun _ => htrail _

theorem proclaim_spec (halone : checker.Alone view) (projectId : Int64) (run : Run)
    (failed : UInt64) (message : String) (Q : Database -> Prop) (s : σ)
    (htask : forall taskId status message,
      view.Preserves Q (Check.updateTask checker.vault checker.clock taskId status message).run)
    (hs : Q (view.database s)) :
    exists after, (checker.proclaim projectId run failed message).on s = (.ok (), after) ∧
      view.outside after = view.outside s ∧ view.Keeps Q s after := by
  have htrail := halone.trail
    { phase := "check", status := if failed = 0 then "completed" else "completed_with_errors",
      projectId := some projectId, message }
  unfold proclaim
  cases run.taskId with
  | none =>
      refine ⟨_, rfl, (htrail s).outside, View.Keeps.of_same (htrail s) hs⟩
  | some taskId =>
      rcases htask taskId .completed message s hs with ⟨hkeeps, houtside⟩
      refine ⟨_, rfl, (htrail _).outside.trans houtside, ?_⟩
      exact hkeeps.trans (View.Keeps.of_same (htrail _) hkeeps.database)

theorem finish_spec (halone : checker.Alone view) (setup : Setup) {sweep : Sweep}
    {done batch : List Finding} {s : σ}
    (h : sweep.Holds checker view origin setup.project.id (UInt64.ofNat setup.work.length)
      done batch s) :
    exists result after, (checker.finish setup sweep).on s = (result, after) ∧
      view.outside after = view.outside s ∧
      view.Keeps (Database.Reached origin setup.project.id (done ++ batch)) s after ∧
      forall outcome, result = .ok outcome -> outcome.status = .completed ∧
        Settled checker origin setup (done ++ batch) outcome (view.database after) := by
  rcases Session.commit_cases halone.vault h.session with
    ⟨committed, session, between, hcommit, houtside, _, hcases⟩
  have hon : Attempt.on (ExceptT.mk do return (<- sweep.session.commit checker.vault).1) s =
      (committed, between) := View.run_bind_of_eq hcommit
  unfold finish
  rcases hcases with ⟨fault, hresult, hsame⟩ |
    ⟨count, hresult, hmoved, hsources, hruns, hsaved⟩
  · subst hresult
    refine ⟨_, _, Attempt.on_bind_of_error hon, houtside, ?_, ?_⟩
    · exact View.Keeps.of_same hsame (h.stage.reached (List.prefix_append done batch))
    · intro outcome hok
      cases hok
  · subst hresult
    have hstage := h.stage.commit hmoved hsources hruns
    have hcommitted := Session.keeps_of_commit hstage hsaved
    have hclock := halone.now between
    rcases hnow : checker.clock.now.run between with ⟨time, early⟩
    rw [hnow] at hclock
    have hnow' : (Attempt.effect checker.clock.now).on between = (.ok time, early) := by
      rw [Attempt.on_effect, hnow]
    rw [← hclock.database] at hstage
    rcases Check.updateRun_cases halone.vault hstage (fun run => { run with
        completedAt := some time
        itemsChecked := UInt64.ofNat setup.work.length - failedCount sweep
        itemsFailed := failedCount sweep }) (fun _ => rfl) with
      ⟨updated, written, hupdate, houtside', hkeeps, hcases⟩
    have houtside'' := houtside'.trans (hclock.outside.trans houtside)
    have hkeeps' := hcommitted.trans ((View.Keeps.of_same hclock hcommitted.database).trans
      hkeeps)
    rw [Attempt.on_bind_of_ok hon, Attempt.on_bind_of_ok hnow']
    rcases hcases with ⟨fault, hupdated⟩ | ⟨old, hupdated, hannounced, hfinal⟩
    · subst hupdated
      refine ⟨_, _, Attempt.on_bind_of_error hupdate, houtside'', hkeeps', ?_⟩
      intro outcome hok
      cases hok
    · subst hupdated
      rw [Attempt.on_bind_of_ok hupdate]
      rcases proclaim_spec halone setup.project.id _ (failedCount sweep)
        (finalMessage (UInt64.ofNat setup.work.length) (failedCount sweep)) _ written
        (fun taskId status message =>
          Check.preserves_updateTask halone.vault halone.now taskId status message) hfinal with
        ⟨after, hproclaim, hquiet, hlast⟩
      refine ⟨_, _, Attempt.on_bind_of_ok hproclaim, hquiet.trans houtside'', ?_, ?_⟩
      · exact hkeeps'.trans (hlast.mono fun db hdb => hdb.reached (List.prefix_refl _))
      · intro outcome hok
        cases hok
        have hafter := hlast.database
        refine ⟨rfl, h.failures, hafter.moved, rfl, rfl, _, hafter.counted, rfl, ?_, rfl, rfl⟩
        exact Option.some.inj hannounced

/-!
## Whole checks
-/

section Checks

variable {remote : Storage (StateM ω)}
  {connect : String -> Attempt (StateM σ) (Storage (StateM σ))}

theorem prepare_spec (halone : checker.Alone view) (hconnects : Connects connect view remote)
    (setup : Setup) {s : σ}
    (h : Database.Stage origin setup.project.id (fun _ => True) [] (view.database s)) :
    exists result after, (checker.prepare setup connect).on s = (result, after) ∧
      view.outside after = view.outside s ∧
      view.Keeps (Database.Reached origin setup.project.id []) s after ∧
      forall storage, result = .ok storage -> storage.Acts view remote ∧
        Database.Stage origin setup.project.id
          (Database.announced (UInt64.ofNat setup.work.length)) [] (view.database after) := by
  rcases announce_spec halone setup h with
    ⟨announced, between, hannounce, houtside, hkeeps, hstage⟩
  cases announced with
  | error fault =>
      refine ⟨_, _, Attempt.on_bind_of_error hannounce, houtside, hkeeps, ?_⟩
      intro storage hok
      cases hok
  | ok _ =>
      have hstorage := hconnects.acts setup.token between
      rcases hconnect : (connect setup.token).on between with ⟨connected, after⟩
      have hquiet := (hconnects.still setup.token).of_on hconnect
      rw [hconnect] at hstorage
      refine ⟨connected, after, (Attempt.on_bind_of_ok hannounce).trans hconnect,
        hquiet.outside.trans houtside, hkeeps.trans (View.Keeps.of_same hquiet hkeeps.database),
        ?_⟩
      intro storage hok
      rw [hquiet.database]
      exact ⟨hstorage storage hok, hstage rfl⟩

theorem carryOut_spec (halone : checker.Alone view) (hconnects : Connects connect view remote)
    (hkeyed : origin.Keyed) (setup : Setup)
    (hitems : forall key, key ∈ setup.work -> exists item, origin.tracked? key = some item)
    (hnodup : setup.work.Nodup) (externalIds : OrderedMap String (Option String)) {s : σ}
    (h : Database.Stage origin setup.project.id (fun _ => True) [] (view.database s)) :
    exists result findings caches after,
      (checker.carryOut setup externalIds connect).run s =
        ((result, caches.externalIds), after) ∧
      Assessed (checker.surveyor remote) setup.provenance origin checker.vault.Unread
        ({ Caches.empty with externalIds }, view.outside s) findings
        (caches, view.outside after) ∧
      findings.map Finding.key <+: setup.work ∧
      view.Keeps (Database.Reached origin setup.project.id findings) s after ∧
      forall outcome, result = .ok outcome -> outcome.status = .completed ∧
        findings.map Finding.key = setup.work ∧
        Settled checker origin setup findings outcome (view.database after) := by
  rcases prepare_spec halone hconnects setup h with
    ⟨prepared, ready, hprepare, houtside, hkeeps, hready⟩
  unfold carryOut
  cases prepared with
  | error fault =>
      refine ⟨.error fault, [], (Sweep.start externalIds).caches, ready,
        View.run_bind_of_eq hprepare, ?_, List.nil_prefix, hkeeps, ?_⟩
      · rw [houtside]
        exact .nil _
      · intro outcome hok
        cases hok
  | ok storage =>
      rcases hready storage rfl with ⟨hacts, hstage⟩
      have hholds : (Sweep.start externalIds).Holds checker view origin setup.project.id
          (UInt64.ofNat setup.work.length) [] [] ready :=
        ⟨hstage, Session.Holds.start _, .nil, rfl⟩
      have hacts' : (checker.surveyor storage).storage.Acts view remote := hacts
      rcases sweepAll_spec halone hacts' setup hkeyed setup.work hholds rfl hitems hnodup with
        ⟨swept, sweep, final, findings, hsweep, h⟩
      have hassessed := h.assessed
      rw [houtside] at hassessed
      have hkeeps' := (hkeeps.mono fun db hdb =>
        hdb.mono (List.nil_prefix (l := findings))).trans h.keeps
      rw [View.run_bind_of_eq hprepare, View.run_bind_of_eq hsweep]
      cases swept with
      | error fault =>
          refine ⟨.error fault, findings, sweep.caches, final, rfl, hassessed, h.front,
            hkeeps', ?_⟩
          intro outcome hok
          cases hok
      | ok _ =>
          rcases h.finished rfl with ⟨hall, done, batch, hlist, hholds'⟩
          rcases finish_spec halone setup hholds' with
            ⟨result, after, hfinish, houtside', hkeeps'', hfinished⟩
          have hlist' : done ++ batch = findings := hlist
          rw [hlist'] at hkeeps'' hfinished
          rw [← houtside'] at hassessed
          refine ⟨result, findings, sweep.caches, after, View.run_bind_of_eq hfinish,
            hassessed, h.front, hkeeps'.trans hkeeps'', ?_⟩
          intro outcome hok
          rcases hfinished outcome hok with ⟨hcompleted, hsettled⟩
          exact ⟨hcompleted, hall, hsettled⟩

theorem fail_preserves (halone : checker.Alone view) (projectId : Int64) (run : Option Run)
    (fault : Fault) (written : List Finding) :
    view.Preserves (Database.Stage origin projectId (fun _ => True) written)
      (checker.fail projectId run fault).run := by
  have hcomplete : view.Preserves (Database.Stage origin projectId (fun _ => True) written)
      (Check.complete checker.vault checker.clock projectId).run := by
    apply View.preserves_attempt_bind (View.preserves_effect (halone.now.preserves _))
    intro time
    exact Check.preserves_updateRun halone.vault (fun _ => rfl) (fun _ h => h)
  apply View.preserves_attempt_bind
  · cases run with
    | none => exact View.preserves_attempt_pure none
    | some run =>
        apply View.preserves_within
        apply View.preserves_attempt_bind hcomplete
        intro updated
        cases run.taskId with
        | none => exact View.preserves_attempt_pure _
        | some taskId =>
            exact View.preserves_attempt_bind
              (Check.preserves_updateTask halone.vault halone.now taskId _ _) fun _ =>
              View.preserves_attempt_pure _
  · intro persisted
    apply View.preserves_attempt_bind
    · exact View.preserves_outcome ((halone.trail _).preserves _)
    · intro _
      exact View.preserves_attempt_pure _

theorem keeps_reached_of_fail (halone : checker.Alone view) {projectId : Int64}
    {run : Option Run} {fault : Fault} {findings : List Finding} {s after : σ}
    {result : Except Fault CheckOutcome}
    (hfail : (checker.fail projectId run fault).on s = (result, after))
    (h : Database.Reached origin projectId findings (view.database s)) :
    view.outside after = view.outside s ∧
      view.Keeps (Database.Reached origin projectId findings) s after := by
  rcases h with ⟨written, hwritten, hstage⟩
  have hspec := fail_preserves halone projectId run fault written s hstage
  have hafter : ((checker.fail projectId run fault).run.run s).2 = after :=
    congrArg Prod.snd hfail
  rw [hafter] at hspec
  exact ⟨hspec.2, hspec.1.mono fun db hdb => hdb.reached hwritten⟩

theorem fail_status {projectId : Int64} {run : Option Run} {fault : Fault} {s after : σ}
    {outcome : CheckOutcome}
    (h : (checker.fail projectId run fault).on s = (.ok outcome, after)) :
    outcome.status = .failed := by
  rcases Attempt.of_on_bind_ok h with ⟨persisted, between, _, hrest⟩
  rcases Attempt.of_on_bind_ok hrest with ⟨_, _, _, hpure⟩
  cases hpure
  rfl

theorem of_run?_ok (hvault : checker.vault.Holds view) {projectId : Int64}
    {found : Option Run} {s early : σ}
    (h : (Check.run? checker.vault projectId).on s = (.ok found, early)) :
    found = (view.database s).runOf? projectId ∧ view.Same s early := by
  rcases Vault.snapshot_cases hvault s with
    ⟨result, after, hloaded, hsame, ⟨fault, _, hresult⟩ | hresult⟩
  · subst hresult
    have hrun : (Check.run? checker.vault projectId).on s = (.error fault, after) :=
      Attempt.on_bind_of_error hloaded
    rw [hrun] at h
    cases h
  · subst hresult
    have hrun : (Check.run? checker.vault projectId).on s =
        (.ok ((view.database s).runOf? projectId), after) := Attempt.on_bind_of_ok hloaded
    rw [hrun] at h
    cases h
    exact ⟨rfl, hsame⟩

theorem readSetup_cases (hvault : checker.vault.Holds view) (projectId userId : Int64) (s : σ) :
    exists result after, (checker.readSetup projectId userId).on s = (result, after) ∧
      view.Same s after ∧
      forall setup, result = .ok setup ->
        (view.database s).setup projectId userId = .ok setup := by
  rcases Vault.snapshot_cases hvault s with
    ⟨loaded, after, hloaded, hsame, ⟨fault, _, hresult⟩ | hresult⟩
  · subst hresult
    exact ⟨_, _, Attempt.on_bind_of_error hloaded, hsame, fun _ hok => nomatch hok⟩
  · subst hresult
    exact ⟨_, _, Attempt.on_bind_of_ok hloaded, hsame, fun _ hok => hok⟩

/-- How a check goes: its project's run cannot be read, or its setup cannot, or its items
are gone through, and that may break off. -/
inductive Conducted (checker : Checker (StateM σ)) (view : View σ ω)
    (connect : String -> Attempt (StateM σ) (Storage (StateM σ))) (projectId userId : Int64)
    (externalIds : OrderedMap String (Option String)) (s : σ) :
    Except Fault CheckOutcome -> OrderedMap String (Option String) -> σ -> Prop
  | unread {fault : Fault} {after : σ} (hfault : checker.vault.Unread fault)
      (hsame : view.Same s after) :
      Conducted checker view connect projectId userId externalIds s (.error fault) externalIds
        after
  | unprepared {fault : Fault} {result : Except Fault CheckOutcome} {early after : σ}
      (hsame : view.Same s early)
      (hfail : (checker.fail projectId ((view.database s).runOf? projectId) fault).on early =
        (result, after)) :
      Conducted checker view connect projectId userId externalIds s result externalIds after
  | carried {setup : Setup} {outcome : CheckOutcome}
      {known : OrderedMap String (Option String)} {early after : σ}
      (hsame : view.Same s early) (hsetup : (view.database s).setup projectId userId = .ok setup)
      (hcarry : (checker.carryOut setup externalIds connect).run early =
        ((.ok outcome, known), after)) :
      Conducted checker view connect projectId userId externalIds s (.ok outcome) known after
  | broken {setup : Setup} {fault : Fault} {result : Except Fault CheckOutcome}
      {known : OrderedMap String (Option String)} {early between after : σ}
      (hsame : view.Same s early) (hsetup : (view.database s).setup projectId userId = .ok setup)
      (hcarry : (checker.carryOut setup externalIds connect).run early =
        ((.error fault, known), between))
      (hfail : (checker.fail projectId ((view.database s).runOf? projectId) fault).on between =
        (result, after)) :
      Conducted checker view connect projectId userId externalIds s result known after

theorem conduct_cases (hvault : checker.vault.Holds view)
    (connect : String -> Attempt (StateM σ) (Storage (StateM σ))) (projectId userId : Int64)
    (externalIds : OrderedMap String (Option String)) (s : σ) :
    exists result known after,
      (checker.conduct projectId userId externalIds connect).run s = ((result, known), after) ∧
      checker.Conducted view connect projectId userId externalIds s result known after := by
  unfold conduct
  rcases Vault.snapshot_cases hvault s with
    ⟨loaded, early, hloaded, hsame, ⟨fault, hfault, hresult⟩ | hresult⟩
  · subst hresult
    have hrun : (Check.run? checker.vault projectId).on s = (.error fault, early) :=
      Attempt.on_bind_of_error hloaded
    exact ⟨_, _, early, View.run_bind_of_eq hrun, .unread hfault hsame⟩
  subst hresult
  have hrun : (Check.run? checker.vault projectId).on s =
      (.ok ((view.database s).runOf? projectId), early) := Attempt.on_bind_of_ok hloaded
  rw [View.run_bind_of_eq hrun]
  dsimp only
  rcases readSetup_cases hvault projectId userId early with
    ⟨read, ready, hread, hsame', hsetup⟩
  rw [View.run_bind_of_eq hread]
  rw [hsame.database] at hsetup
  cases read with
  | error fault => exact ⟨_, _, _, rfl, .unprepared (hsame.trans hsame') rfl⟩
  | ok setup =>
      rcases hcarry : (checker.carryOut setup externalIds connect).run ready with
        ⟨⟨carried, known⟩, between⟩
      dsimp only
      rw [View.run_bind_of_eq hcarry]
      cases carried with
      | ok outcome =>
          exact ⟨_, known, between, rfl, .carried (hsame.trans hsame') (hsetup setup rfl) hcarry⟩
      | error fault =>
          exact ⟨_, known, _, rfl,
            .broken (hsame.trans hsame') (hsetup setup rfl) hcarry rfl⟩

theorem carryOut_of_setup (halone : checker.Alone view)
    (hconnects : Connects connect view remote) {projectId userId : Int64}
    (externalIds : OrderedMap String (Option String)) {setup : Setup} {s early : σ}
    (hkeyed : (view.database s).Keyed) (hsame : view.Same s early)
    (hsetup : (view.database s).setup projectId userId = .ok setup) :
    exists result findings caches after,
      (checker.carryOut setup externalIds connect).run early =
        ((result, caches.externalIds), after) ∧
      Assessed (checker.surveyor remote) setup.provenance (view.database s)
        checker.vault.Unread ((Sweep.start externalIds).caches, view.outside s) findings
        (caches, view.outside after) ∧
      findings.map Finding.key <+: setup.work ∧
      view.Keeps (Database.Reached (view.database s) projectId findings) s after ∧
      forall outcome, result = .ok outcome -> outcome.status = .completed ∧
        findings.map Finding.key = setup.work ∧
        Settled checker (view.database s) setup findings outcome (view.database after) := by
  have hid : setup.project.id = projectId :=
    hkeyed.projects _ _ (Database.of_setup_eq_ok hsetup).1
  rcases Database.setup_work hkeyed hsetup with ⟨hnodup, hmem⟩
  have hitems : forall key, key ∈ setup.work ->
      exists item, (view.database s).tracked? key = some item := by
    intro key hkey
    rcases (hmem key).mp hkey with ⟨item, hitem, _⟩
    exact ⟨item, hitem⟩
  have hstart := Database.Stage.start (view.database s) projectId
  have hstage : Database.Stage (view.database s) setup.project.id (fun _ => True) []
      (view.database early) := by
    rw [hsame.database, hid]
    exact hstart
  rcases carryOut_spec halone hconnects hkeyed setup hitems hnodup externalIds hstage with
    ⟨result, findings, caches, after, hcarry, hassessed, hkeys, hkeeps, hend⟩
  rw [hsame.outside] at hassessed
  rw [hid] at hkeeps
  refine ⟨result, findings, caches, after, hcarry, hassessed, hkeys, ?_, hend⟩
  exact (View.Keeps.of_same hsame (hstart.reached List.nil_prefix)).trans hkeeps

/-- What a check does, however it ends: it assesses a first part of its work list, and
every database that it saves has the locations of a first part of that. -/
theorem conduct_spec (halone : checker.Alone view) (hconnects : Connects connect view remote)
    (projectId userId : Int64) (externalIds : OrderedMap String (Option String)) (s : σ)
    (hkeyed : (view.database s).Keyed) :
    exists result findings caches after,
      (checker.conduct projectId userId externalIds connect).run s =
        ((result, caches.externalIds), after) ∧
      view.Keeps (Database.Reached (view.database s) projectId findings) s after ∧
      ((findings = [] ∧ caches = (Sweep.start externalIds).caches ∧
          view.outside after = view.outside s ∧
          forall outcome, result = .ok outcome -> outcome.status = .failed) ∨
        exists setup, (view.database s).setup projectId userId = .ok setup ∧
          Assessed (checker.surveyor remote) setup.provenance (view.database s)
            checker.vault.Unread ((Sweep.start externalIds).caches, view.outside s) findings
            (caches, view.outside after) ∧
          findings.map Finding.key <+: setup.work ∧
          forall outcome, result = .ok outcome -> outcome.status = .completed ->
            findings.map Finding.key = setup.work ∧
            Settled checker (view.database s) setup findings outcome (view.database after)) := by
  have hreached :=
    (Database.Stage.start (view.database s) projectId).reached (List.prefix_refl [])
  rcases conduct_cases halone.vault connect projectId userId externalIds s with
    ⟨result, known, after, hrun, hconducted⟩
  cases hconducted with
  | unread hfault hsame =>
      exact ⟨_, [], (Sweep.start externalIds).caches, after, hrun,
        View.Keeps.of_same hsame hreached,
        Or.inl ⟨rfl, rfl, hsame.outside, fun _ hok => nomatch hok⟩⟩
  | unprepared hsame hfail =>
      have hkept := View.Keeps.of_same hsame hreached
      rcases keeps_reached_of_fail halone hfail hkept.database with ⟨houtside, hkept'⟩
      refine ⟨result, [], (Sweep.start externalIds).caches, after, hrun, hkept.trans hkept',
        Or.inl ⟨rfl, rfl, houtside.trans hsame.outside, ?_⟩⟩
      intro outcome hok
      subst hok
      exact fail_status hfail
  | carried hsame hsetup hcarry =>
      rcases carryOut_of_setup halone hconnects externalIds hkeyed hsame hsetup with
        ⟨_, findings, caches, _, hcarried, hassessed, hkeys, hkeeps, hend⟩
      rw [hcarry] at hcarried
      cases hcarried
      refine ⟨_, findings, caches, after, hrun, hkeeps, Or.inr ⟨_, hsetup, hassessed, hkeys, ?_⟩⟩
      intro outcome hok _
      exact (hend outcome hok).2
  | broken hsame hsetup hcarry hfail =>
      rcases carryOut_of_setup halone hconnects externalIds hkeyed hsame hsetup with
        ⟨_, findings, caches, _, hcarried, hassessed, hkeys, hkeeps, _⟩
      rw [hcarry] at hcarried
      cases hcarried
      rcases keeps_reached_of_fail halone hfail hkeeps.database with ⟨houtside, hkept⟩
      rw [← houtside] at hassessed
      refine ⟨result, findings, caches, after, hrun, hkeeps.trans hkept,
        Or.inr ⟨_, hsetup, hassessed, hkeys, ?_⟩⟩
      intro outcome hok hcompleted
      subst hok
      rw [fail_status hfail] at hcompleted
      cases hcompleted

end Checks

end Checker

/-!
## The account of a completed check
-/

theorem Reported.keys {checker : Checker (StateM σ)} {origin : Database}
    {findings : List Finding} {failures : List ItemFailure}
    (h : Reported checker origin findings failures) :
    failures.map ItemFailure.key = (findings.filter Finding.failed).map Finding.key := by
  unfold Reported at h
  generalize findings.filter Finding.failed = failed at h
  induction h with
  | nil => rfl
  | cons hreports _ ih => rw [List.map_cons, List.map_cons, hreports.key, ih]

theorem Reported.nodup_keys {checker : Checker (StateM σ)} {origin : Database}
    {findings : List Finding} {failures : List ItemFailure}
    (h : Reported checker origin findings failures) (hnodup : (findings.map Finding.key).Nodup) :
    (failures.map ItemFailure.key).Nodup := by
  rw [h.keys]
  exact hnodup.sublist (List.filter_sublist.map Finding.key)

theorem Reported.key_mem_iff {checker : Checker (StateM σ)} {origin : Database}
    {findings : List Finding} {failures : List ItemFailure} {finding : Finding}
    (h : Reported checker origin findings failures) (hnodup : (findings.map Finding.key).Nodup)
    (hfinding : finding ∈ findings) :
    finding.key ∈ failures.map ItemFailure.key <-> finding.failed = true := by
  rw [h.keys, List.mem_map]
  constructor
  · intro hother
    rcases hother with ⟨other, hother, hkey⟩
    rcases List.mem_filter.mp hother with ⟨hother, hfailed⟩
    have heq := List.inj_on_of_nodup_map hnodup hother hfinding hkey
    rw [← heq]
    exact hfailed
  · intro hfailed
    exact ⟨finding, List.mem_filter.mpr ⟨hfinding, hfailed⟩, rfl⟩

/-- Every item of a work list failed or succeeded.  A failed one is reported once and
is as it was; the location of another one is the one that was found. -/
structure Accounted (checker : Checker (StateM σ)) (origin : Database) (setup : Setup)
    (findings : List Finding) (outcome : CheckOutcome) (after : Database) : Prop where
  reported : Reported checker origin findings outcome.failures
  failed : forall finding fault, finding ∈ findings -> finding.result = .error fault ->
    (outcome.failures.map ItemFailure.key).count finding.key = 1 ∧
      after.tracked? finding.key = origin.tracked? finding.key
  succeeded : forall finding loc, finding ∈ findings -> finding.result = .ok loc ->
    (outcome.failures.map ItemFailure.key).count finding.key = 0 ∧
      after.tracked? finding.key = (origin.tracked? finding.key).map (Tracked.moved loc)
  others : forall key, key ∉ setup.work -> after.tracked? key = origin.tracked? key
  totalItems : outcome.totalItems = UInt64.ofNat setup.work.length
  itemsChecked : outcome.itemsChecked =
    UInt64.ofNat (findings.filter fun finding => !finding.failed).length
  run : exists run, after.runOf? setup.project.id = some run ∧
    outcome.runId = some run.id ∧ run.totalItems = outcome.totalItems ∧
    run.itemsChecked = outcome.itemsChecked ∧
    run.itemsFailed = UInt64.ofNat outcome.failures.length

theorem Settled.accounted {checker : Checker (StateM σ)} {origin after : Database}
    {setup : Setup} {findings : List Finding} {outcome : CheckOutcome}
    (h : Settled checker origin setup findings outcome after)
    (hkeys : findings.map Finding.key = setup.work) (hnodup : setup.work.Nodup) :
    Accounted checker origin setup findings outcome after := by
  have hnodup' : (findings.map Finding.key).Nodup := by
    rw [hkeys]
    exact hnodup
  have hmoved : forall finding, finding ∈ findings ->
      after.tracked? finding.key =
        (origin.tracked? finding.key).map (Tracked.movedBy (finding.move finding.key)) := by
    intro finding hfinding
    rw [h.moved finding.key, found_of_mem hnodup' hfinding]
  refine ⟨h.failures, ?_, ?_, ?_, h.totalItems, ?_, h.run⟩
  · intro finding fault hfinding hresult
    have hfailed : finding.failed = true := by
      unfold Finding.failed
      rw [hresult]
    have hreported := (h.failures.key_mem_iff hnodup' hfinding).mpr hfailed
    refine ⟨List.count_eq_one_of_mem (h.failures.nodup_keys hnodup') hreported, ?_⟩
    rw [hmoved finding hfinding]
    unfold Finding.move
    rw [hresult]
    cases origin.tracked? finding.key <;> rfl
  · intro finding loc hfinding hresult
    refine ⟨List.count_eq_zero.mpr ?_, ?_⟩
    · intro hreported
      have hfailed := (h.failures.key_mem_iff hnodup' hfinding).mp hreported
      unfold Finding.failed at hfailed
      rw [hresult] at hfailed
      cases hfailed
    · rw [hmoved finding hfinding]
      have hmove : finding.move finding.key = some loc := by
        unfold Finding.move
        rw [hresult]
        exact if_pos rfl
      rw [hmove]
      rfl
  · intro key hkey
    rw [← hkeys] at hkey
    exact h.moved.tracked?_of_none (found_of_not_mem hkey)
  · have hlength : setup.work.length =
        (findings.filter fun finding => !finding.failed).length + outcome.failures.length := by
      have hcount := congrArg List.length h.failures.keys
      rw [List.length_map, List.length_map] at hcount
      rw [← hkeys, List.length_map, hcount, Nat.add_comm]
      exact List.length_eq_length_filter_add Finding.failed
    rw [h.itemsChecked, h.totalItems, hlength, UInt64.ofNat_add, UInt64.add_sub_cancel]

/-- A check that ends as completed accounts for every item of its work list, whatever
remote storage answers and wherever batches end. -/
theorem conduct_accounts {checker : Checker (StateM σ)} {remote : Storage (StateM ω)}
    {connect : String -> Attempt (StateM σ) (Storage (StateM σ))}
    (halone : checker.Alone view) (hconnects : Connects connect view remote)
    {projectId userId : Int64} {externalIds known : OrderedMap String (Option String)}
    {s after : σ} {outcome : CheckOutcome} (hkeyed : (view.database s).Keyed)
    (hrun : (checker.conduct projectId userId externalIds connect).run s =
      ((.ok outcome, known), after))
    (hcompleted : outcome.status = .completed) :
    exists setup findings caches,
      (view.database s).setup projectId userId = .ok setup ∧
      setup.work.Nodup ∧
      (forall key, key ∈ setup.work <-> exists item,
        (view.database s).tracked? key = some item ∧
          Database.eligible projectId item = true) ∧
      findings.map Finding.key = setup.work ∧
      Assessed (checker.surveyor remote) setup.provenance (view.database s)
        checker.vault.Unread ({ Caches.empty with externalIds }, view.outside s) findings
        (caches, view.outside after) ∧
      known = caches.externalIds ∧
      Accounted checker (view.database s) setup findings outcome (view.database after) := by
  rcases Checker.conduct_spec halone hconnects projectId userId externalIds s hkeyed with
    ⟨result, findings, caches, final, hconduct, _, hcases⟩
  rw [hconduct] at hrun
  cases hrun
  rcases hcases with ⟨_, _, _, hfailed⟩ | ⟨setup, hsetup, hassessed, _, hend⟩
  · rw [hfailed outcome rfl] at hcompleted
    cases hcompleted
  · rcases hend outcome rfl hcompleted with ⟨hkeys, hsettled⟩
    rcases Database.setup_work hkeyed hsetup with ⟨hnodup, hmem⟩
    exact ⟨setup, findings, caches, hsetup, hnodup, hmem, hkeys, hassessed, rfl,
      hsettled.accounted hkeys hnodup⟩

/-- The sample's check: two items succeed, and the failure of the third one is
accounted for. -/
theorem conduct_accounts_sample :
    exists outcome known after, Sample.check Sample.memory = ((.ok outcome, known), after) ∧
      outcome.status = .completed ∧ outcome.totalItems = 3 ∧ outcome.itemsChecked = 2 ∧
      exists setup findings caches,
        Sample.database.setup 1 1 = .ok setup ∧ setup.work.Nodup ∧
        (forall key, key ∈ setup.work <-> exists item,
          Sample.database.tracked? key = some item ∧ Database.eligible 1 item = true) ∧
        findings.map Finding.key = setup.work ∧
        Assessed (Sample.checker.surveyor (Storage.answering Sample.answers)) setup.provenance
          Sample.database Sample.checker.vault.Unread (Caches.empty, ()) findings
          (caches, after.outside) ∧
        known = caches.externalIds ∧
        Accounted Sample.checker Sample.database setup findings outcome after.database := by
  have hends : (Sample.check Sample.memory).1.1.toOption.map (fun outcome =>
      (outcome.status, outcome.totalItems, outcome.itemsChecked)) =
        some (.completed, 3, 2) := by decide +kernel
  rcases hrun : Sample.check Sample.memory with ⟨⟨result, known⟩, after⟩
  rw [hrun] at hends
  cases result with
  | error fault => cases hends
  | ok outcome =>
      have hkeyed : Sample.database.Keyed := by decide
      simp only [Except.toOption, Option.map_some, Option.some.injEq, Prod.mk.injEq] at hends
      exact ⟨outcome, known, after, rfl, hends.1, hends.2.1, hends.2.2,
        @conduct_accounts _ _ MemoryWorld.view Sample.checker _ _ Sample.checker_alone
          Sample.connects 1 1 .empty known Sample.memory after outcome hkeyed hrun hends.1⟩

end Whereabouts
