import Mathlib.Data.List.Forall2
import Whereabouts.Proofs.Findings

/-!
# Sweeps

One item after the other, with a commit after every batch.  At any point the items
that were gone through fall into those whose findings are in the database and those
of the batch that waits, and the failures account for all of them.
-/

namespace Whereabouts

variable {σ ω : Type} {view : View σ ω}

/-!
## Sessions
-/

namespace Session

/-- A session over a database in which the locations of a batch of findings wait. -/
structure Holds (session : Session) (db : Database) (batch : List Finding) : Prop where
  loaded : forall snapshot, session.loaded = some snapshot -> db.SameItems snapshot
  pending : forall key, session.pending.get? key = found batch key

variable {session : Session} {db after : Database} {batch : List Finding}

theorem Holds.start (db : Database) : Session.start.Holds db [] where
  loaded := (fun _ h => nomatch h)
  pending := Pending.get?_empty

theorem Holds.load {snapshot : Database} (h : session.Holds db batch)
    (hsnapshot : db.SameItems snapshot) :
    Holds { session with loaded := some snapshot } db batch where
  loaded := by
    intro other hother
    cases hother
    exact hsnapshot
  pending := h.pending

theorem Holds.snoc_error {key : ItemKey} {fault : Fault} (h : session.Holds db batch) :
    session.Holds db (batch ++ [⟨key, .error fault⟩]) where
  loaded := h.loaded
  pending := by
    intro other
    rw [found_append, h.pending]
    rfl

theorem Holds.snoc_ok {key : ItemKey} {loc : Location} (h : session.Holds db batch) :
    (session.stage key loc).Holds db (batch ++ [⟨key, .ok loc⟩]) where
  loaded := h.loaded
  pending := by
    intro other
    rw [found_append, stage, Pending.get?_insert, h.pending]
    by_cases hkey : other = key
    · simp [hkey, found, Finding.move]
    · simp [hkey, found, Finding.move]

variable {vault : Vault (StateM σ)}

theorem database_cases (hvault : vault.Holds view) {s : σ}
    (h : session.Holds (view.database s) batch) :
    exists result after, (session.database vault).on s = (result, after) ∧
      view.Same s after ∧
      ((exists fault, vault.Unread fault ∧ result = .error fault) ∨
        exists snapshot next, result = .ok (snapshot, next) ∧
          (view.database s).SameItems snapshot ∧ next.Holds (view.database s) batch) := by
  unfold database
  cases hloaded : session.loaded with
  | some snapshot =>
      refine ⟨_, s, rfl, View.Same.refl s, Or.inr ⟨snapshot, session, rfl, ?_, h⟩⟩
      exact h.loaded snapshot hloaded
  | none =>
      rcases Vault.snapshot_cases hvault s with
        ⟨result, after, hon, hsame, ⟨fault, hfault, hresult⟩ | hresult⟩
      · subst hresult
        exact ⟨_, _, Attempt.on_bind_of_error hon, hsame, Or.inl ⟨fault, hfault, rfl⟩⟩
      · subst hresult
        have hitems := Database.SameItems.refl (view.database s)
        exact ⟨_, _, Attempt.on_bind_of_ok hon, hsame,
          Or.inr ⟨_, _, rfl, hitems, h.load hitems⟩⟩

inductive Commits (view : View σ ω) (session : Session) (s : σ) :
    Except Fault Nat -> Session -> σ -> Prop
  /-- Nothing waits, and the vault is not even looked at. -/
  | idle (hidle : session.pending.isEmpty = true) : Commits view session s (.ok 0) session s
  /-- What waits is written, to the vault and to the snapshot. -/
  | written {after : σ} (hwaiting : session.pending.isEmpty = false)
      (hdatabase : view.database after = session.pending.apply (view.database s))
      (hsaved : view.saved after = view.database after :: view.saved s)
      (houtside : view.outside after = view.outside s) :
      Commits view session s (.ok (session.pending.present (view.database s)))
        { loaded := session.loaded.map session.pending.apply, pending := .empty } after
  /-- The vault could not be read or written, and nothing waits any more. -/
  | refused {fault : Fault} {after : σ} (hwaiting : session.pending.isEmpty = false)
      (hsame : view.Same s after) :
      Commits view session s (.error fault) { session with pending := .empty } after

theorem commits_commit (hvault : vault.Holds view) {next : Session} {s after : σ}
    {result : Except Fault Nat}
    (h : (session.commit vault).run s = ((result, next), after)) :
    session.Commits view s result next after := by
  unfold commit at h
  cases hempty : session.pending.isEmpty with
  | true =>
      rw [hempty] at h
      cases h
      exact .idle hempty
  | false =>
      rw [hempty, if_neg Bool.false_ne_true] at h
      have hcases := Vault.transaction_cases hvault
        (fun db => .ok (session.pending.present db, session.pending.apply db)) s
      rcases hon : (vault.transaction fun db =>
        .ok (session.pending.present db, session.pending.apply db)).on s with ⟨written, final⟩
      rw [hon] at hcases
      dsimp only at h
      rw [View.run_bind_of_eq hon] at h
      rcases hcases with ⟨fault, hresult, hsame⟩ |
        ⟨count, db, hresult, hdb, hdatabase, hsaved, houtside⟩
      · cases hresult
        cases h
        exact .refused hempty hsame
      · cases hresult
        cases hdb
        cases h
        refine .written hempty hdatabase ?_ houtside
        rw [hsaved]
        exact congrArg (· :: _) hdatabase.symm

/-- A commit writes the batch, or it changes nothing. -/
theorem commit_cases (hvault : vault.Holds view) {s : σ}
    (h : session.Holds (view.database s) batch) :
    exists result next after, (session.commit vault).run s = ((result, next), after) ∧
      view.outside after = view.outside s ∧
      (forall key, next.pending.get? key = none) ∧
      ((exists fault, result = .error fault ∧ view.Same s after) ∨
        (exists count, result = .ok count ∧
          (view.database s).Moved (found batch) (view.database after) ∧
          (view.database s).SameSources (view.database after) ∧
          (view.database after).runs = (view.database s).runs ∧
          (view.Same s after ∨
            view.saved after = view.database after :: view.saved s))) := by
  rcases hrun : (session.commit vault).run s with ⟨⟨result, next⟩, after⟩
  refine ⟨result, next, after, rfl, ?_⟩
  have hfound : session.pending.get? = found batch := funext h.pending
  cases commits_commit hvault hrun with
  | idle hidle =>
      have hnone := Pending.isEmpty_iff.mp hidle
      have hmoved : (view.database s).Moved (found batch) (view.database s) := by
        intro key
        rw [← h.pending, hnone key]
        cases (view.database s).tracked? key <;> rfl
      exact ⟨rfl, hnone, Or.inr ⟨0, rfl, hmoved, Database.SameSources.refl _, rfl,
        Or.inl (View.Same.refl s)⟩⟩
  | written _ hdatabase hsaved houtside =>
      have hmoved := session.pending.moved_apply (view.database s)
      have hsources := Database.apply_sources session.pending (view.database s)
      rw [hfound] at hmoved
      rw [← hdatabase] at hmoved hsources
      exact ⟨houtside, Pending.get?_empty,
        Or.inr ⟨_, rfl, hmoved, hsources.1, hsources.2, Or.inr hsaved⟩⟩
  | refused _ hsame => exact ⟨hsame.outside, Pending.get?_empty, Or.inl ⟨_, rfl, hsame⟩⟩

theorem keeps_of_commit {origin : Database} {projectId : Int64} {tally : Option Run -> Prop}
    {written : List Finding} {s after : σ}
    (h : Database.Stage origin projectId tally written (view.database after))
    (hsaved : view.Same s after ∨ view.saved after = view.database after :: view.saved s) :
    view.Keeps (Database.Reached origin projectId written) s after := by
  have hreached := h.reached (List.prefix_refl written)
  refine ⟨hreached, ?_⟩
  rcases hsaved with hsame | hsaved
  · exact ⟨[], hsame.saved, fun _ hdb => nomatch hdb⟩
  · refine ⟨[_], hsaved, ?_⟩
    intro db hdb
    rw [List.mem_singleton.mp hdb]
    exact hreached

end Session

/-!
## Items
-/

/-- A failure as it has to be reported: with the path of origin that the database had
at the start, unless the database could not be read. -/
structure Reports (checker : Checker (StateM σ)) (origin : Database) (finding : Finding)
    (failure : ItemFailure) : Prop where
  key : failure.key = finding.key
  error : exists fault, finding.result = .error fault ∧
    failure.error = Text.shortened checker.engine.itemErrorLimit fault.message
  path : failure.path = ((origin.location? finding.key).bind Location.originPath).getD "unknown"
    ∨ (failure.path = "unknown" ∧ ¬ checker.vault.Readable)

/-- Failures that account for the failed ones of some findings, in their order. -/
def Reported (checker : Checker (StateM σ)) (origin : Database) (findings : List Finding)
    (failures : List ItemFailure) : Prop :=
  List.Forall₂ (Reports checker origin) (findings.filter Finding.failed) failures

theorem Reported.snoc_ok {checker : Checker (StateM σ)} {origin : Database}
    {findings : List Finding} {failures : List ItemFailure}
    (h : Reported checker origin findings failures) (key : ItemKey) (loc : Location) :
    Reported checker origin (findings ++ [⟨key, .ok loc⟩]) failures := by
  unfold Reported
  rw [List.filter_append]
  exact (List.append_nil _).symm ▸ h

theorem Reported.snoc_error {checker : Checker (StateM σ)} {origin : Database}
    {findings : List Finding} {failures : List ItemFailure} {failure : ItemFailure}
    {key : ItemKey} {fault : Fault} (h : Reported checker origin findings failures)
    (hfailure : Reports checker origin ⟨key, .error fault⟩ failure) :
    Reported checker origin (findings ++ [⟨key, .error fault⟩]) (failures ++ [failure]) := by
  unfold Reported
  rw [List.filter_append]
  exact List.rel_append h (.cons hfailure .nil)

/-- Where a sweep is in a world: some findings are in the database, those of a batch
wait, and everything is counted. -/
structure Sweep.Holds (sweep : Sweep) (checker : Checker (StateM σ)) (view : View σ ω)
    (origin : Database) (projectId : Int64) (total : UInt64)
    (done batch : List Finding) (s : σ) : Prop where
  stage : Database.Stage origin projectId (Database.announced total) done (view.database s)
  session : sweep.session.Holds (view.database s) batch
  failures : Reported checker origin (done ++ batch) sweep.failures
  processed : sweep.processed = UInt64.ofNat (done ++ batch).length

namespace Checker

variable {checker : Checker (StateM σ)} {surveyor : Surveyor (StateM σ)}
  {remote : Storage (StateM ω)} {origin : Database}
  {session : Session} {batch : List Finding} {projectId : Int64} {total : UInt64}

theorem fetch_cases (hvault : checker.vault.Holds view) {s : σ} {key : ItemKey} {item : Tracked}
    (h : session.Holds (view.database s) batch)
    (hitem : (view.database s).tracked? key = some item) :
    exists result next after, (checker.fetch session key).run s = ((result, next), after) ∧
      view.Same s after ∧ next.Holds (view.database s) batch ∧
      ((exists fault, checker.vault.Unread fault ∧ result = .error fault) ∨
        result = .ok item) := by
  rcases Session.database_cases hvault h with ⟨loaded, after, hon, hsame, hcases⟩
  rcases key with ⟨kind, id⟩
  rcases hcases with ⟨fault, hfault, hloaded⟩ | ⟨snapshot, next, hloaded, hsnapshot, hnext⟩
  · rw [hloaded] at hon
    refine ⟨.error fault, session, after, ?_, hsame, h, Or.inl ⟨fault, hfault, rfl⟩⟩
    cases kind with
    | asset => exact View.run_bind_of_eq (Attempt.on_bind_of_error hon)
    | tileServer => exact View.run_bind_of_eq (Attempt.on_bind_of_error hon)
  · rw [hloaded] at hon
    have hrow := hsnapshot ⟨kind, id⟩
    rw [hitem] at hrow
    refine ⟨.ok item, next, after, ?_, hsame, hnext, Or.inr rfl⟩
    cases kind with
    | asset =>
        rcases Option.map_eq_some_iff.mp hrow with ⟨row, hget, rfl⟩
        have hasset : (session.asset? checker.vault id).on s = (.ok (some row, next), after) := by
          rw [← hget]
          exact Attempt.on_bind_of_ok hon
        exact View.run_bind_of_eq hasset
    | tileServer =>
        rcases Option.map_eq_some_iff.mp hrow with ⟨row, hget, rfl⟩
        have hserver :
            (session.tileServer? checker.vault id).on s = (.ok (some row, next), after) := by
          rw [← hget]
          exact Attempt.on_bind_of_ok hon
        exact View.run_bind_of_eq hserver

/-- One item gives one finding, which waits when it is a location. -/
theorem process_spec (halone : checker.Alone view) (hacts : surveyor.storage.Acts view remote)
    (provenance : Provenance) (caches : Caches) {s : σ} {key : ItemKey} {item : Tracked}
    (h : session.Holds (view.database s) batch)
    (hitem : (view.database s).tracked? key = some item)
    (horigin : origin.tracked? key = some item) (hkey : item.key = key) :
    exists finding next known after,
      (checker.process surveyor provenance session caches key).run s =
        ((finding.result.map fun _ => (), next, known), after) ∧
      finding.key = key ∧
      Assess (surveyor.over remote) provenance origin checker.vault.Unread
        (caches, view.outside s) finding (known, view.outside after) ∧
      view.database after = view.database s ∧ view.saved after = view.saved s ∧
      next.Holds (view.database s) (batch ++ [finding]) := by
  have hclock := halone.now s
  rcases hnow : checker.clock.now.run s with ⟨time, early⟩
  rw [hnow] at hclock
  have hearly : session.Holds (view.database early) batch := by
    rw [hclock.database]
    exact h
  have hitem' : (view.database early).tracked? key = some item := by
    rw [hclock.database]
    exact hitem
  rcases fetch_cases halone.vault hearly hitem' with
    ⟨result, next, after, hfetch, hsame, hnext, hcases⟩
  rw [hclock.database] at hnext
  unfold process
  rw [View.run_bind_of_eq hnow, View.run_bind_of_eq hfetch]
  rcases hcases with ⟨fault, hfault, hresult⟩ | hresult
  · subst hresult
    refine ⟨⟨key, .error fault⟩, next, caches, after, rfl, rfl, ?_, ?_, ?_, hnext.snoc_error⟩
    · rw [hsame.outside, hclock.outside]
      exact .unread hfault
    · exact hsame.database.trans hclock.database
    · exact hsame.saved.trans hclock.saved
  · subst hresult
    rcases Lockstep.rel_treat hacts provenance item time caches after with
      ⟨hremote, hdatabase, hsaved⟩
    have houtside : view.outside after = view.outside s := hsame.outside.trans hclock.outside
    have hdatabase' := hdatabase.trans (hsame.database.trans hclock.database)
    have hsaved' := hsaved.trans (hsame.saved.trans hclock.saved)
    rcases htreat : (surveyor.treat provenance item time caches).run after with
      ⟨⟨out, bench⟩, final⟩
    rw [htreat, houtside] at hremote
    rw [htreat] at hdatabase' hsaved'
    dsimp only
    rw [View.run_bind_of_eq htreat]
    cases out with
    | error failure =>
        have hassess : (surveyor.over remote).assess provenance item time
            (caches, view.outside s) =
              (.error (.storage failure), (bench.caches, view.outside final)) := by
          unfold Surveyor.assess
          rw [hremote]
        exact ⟨⟨key, .error (.storage failure)⟩, next, bench.caches, final, rfl, rfl,
          .of_eq horigin hassess, hdatabase', hsaved', hnext.snoc_error⟩
    | ok verdict =>
        have hassess : (surveyor.over remote).assess provenance item time
            (caches, view.outside s) =
              (.ok bench.location, (bench.caches, view.outside final)) := by
          unfold Surveyor.assess
          rw [hremote]
        refine ⟨⟨key, .ok bench.location⟩, _, bench.caches, final, rfl, rfl,
          .of_eq horigin hassess, hdatabase', hsaved', ?_⟩
        rw [hkey]
        exact hnext.snoc_ok

theorem failurePath_cases (hvault : checker.vault.Holds view) (key : ItemKey) {s : σ}
    (h : session.Holds (view.database s) batch) :
    exists path next after, (checker.failurePath session key).run s = ((path, next), after) ∧
      view.Same s after ∧ next.Holds (view.database s) batch ∧
      (path = (((view.database s).location? key).bind Location.originPath).getD "unknown" ∨
        (path = "unknown" ∧ ¬ checker.vault.Readable)) := by
  rcases Session.database_cases hvault h with ⟨loaded, after, hon, hsame, hcases⟩
  rcases hcases with ⟨fault, hfault, hloaded⟩ | ⟨snapshot, next, hloaded, hsnapshot, hnext⟩
  · rw [hloaded] at hon
    refine ⟨"unknown", session, after, View.run_bind_of_eq hon, hsame, h, Or.inr ⟨rfl, ?_⟩⟩
    intro hreadable
    exact hreadable fault hfault
  · rw [hloaded] at hon
    refine ⟨_, next, after, View.run_bind_of_eq hon, hsame, hnext, Or.inl ?_⟩
    unfold Database.location?
    rw [hsnapshot key]

theorem sweepItem_spec (halone : checker.Alone view) (hacts : surveyor.storage.Acts view remote)
    (provenance : Provenance) {sweep : Sweep} {done : List Finding} {s : σ} {key : ItemKey}
    {item : Tracked}
    (h : sweep.Holds checker view origin projectId total done batch s)
    (horigin : origin.tracked? key = some item) (hkey : item.key = key)
    (hnew : key ∉ done.map Finding.key) :
    exists finding next after,
      (checker.sweepItem surveyor provenance sweep key).run s = (next, after) ∧
      finding.key = key ∧
      Assess (surveyor.over remote) provenance origin checker.vault.Unread
        (sweep.caches, view.outside s) finding (next.caches, view.outside after) ∧
      view.database after = view.database s ∧ view.saved after = view.saved s ∧
      next.Holds checker view origin projectId total done (batch ++ [finding]) after := by
  have hrow : (view.database s).tracked? key = some item := by
    rw [h.stage.moved.tracked?_of_none (found_of_not_mem hnew)]
    exact horigin
  rcases process_spec halone hacts provenance sweep.caches h.session hrow horigin hkey with
    ⟨finding, session, known, between, hprocess, hfinding, hassess, hdatabase, hsaved, hsession⟩
  have hcount : sweep.processed + 1 =
      UInt64.ofNat (done ++ (batch ++ [finding])).length := by
    have hlength : (done ++ (batch ++ [finding])).length = (done ++ batch).length + 1 := by
      simp [Nat.add_assoc]
    rw [h.processed, hlength, UInt64.ofNat_add]
    rfl
  unfold sweepItem
  rw [View.run_bind_of_eq hprocess]
  rcases finding with ⟨other, result⟩
  change other = key at hfinding
  subst other
  cases result with
  | ok loc =>
      refine ⟨⟨key, .ok loc⟩, _, between, rfl, rfl, hassess, hdatabase, hsaved, ?_⟩
      refine ⟨?_, ?_, ?_, hcount⟩
      · rw [hdatabase]
        exact h.stage
      · rw [hdatabase]
        exact hsession
      · rw [← List.append_assoc]
        exact h.failures.snoc_ok key loc
  | error fault =>
      have hsession' : session.Holds (view.database between)
          (batch ++ [⟨key, .error fault⟩]) := by
        rw [hdatabase]
        exact hsession
      rcases failurePath_cases halone.vault key hsession' with
        ⟨path, last, after, hpath, hsame, hlast, hcases⟩
      have hdatabase' := hsame.database.trans hdatabase
      refine ⟨⟨key, .error fault⟩, _, after, View.run_bind_of_eq hpath, rfl, ?_, hdatabase',
        hsame.saved.trans hsaved, ?_⟩
      · rw [hsame.outside]
        exact hassess
      · refine ⟨?_, ?_, ?_, hcount⟩
        · rw [hdatabase']
          exact h.stage
        · rw [hsame.database]
          exact hlast
        · rw [← List.append_assoc]
          refine h.failures.snoc_error ⟨rfl, ⟨fault, rfl, rfl⟩, ?_⟩
          unfold Database.location? at hcases ⊢
          rw [hdatabase, hrow] at hcases
          rw [horigin]
          exact hcases

theorem publish_preserves (halone : checker.Alone view) (setup : Setup) (sweep : Sweep)
    {written : List Finding} :
    view.Preserves (Database.Stage origin setup.project.id (Database.announced total) written)
      (checker.publish setup sweep).run := by
  apply View.preserves_attempt_bind
  · exact Check.preserves_updateRun halone.vault (fun _ => rfl) (fun _ h => h)
  · intro _
    cases setup.run.taskId with
    | none => exact View.preserves_attempt_pure ()
    | some taskId => exact Check.preserves_updateTask halone.vault halone.now taskId _ _

/-- After a batch nothing waits any more, and what is saved is a stage of the check. -/
theorem closeBatch_spec (halone : checker.Alone view) {setup : Setup} {sweep : Sweep}
    {done : List Finding} {s : σ}
    (h : sweep.Holds checker view origin setup.project.id total done batch s) :
    exists result next after, (checker.closeBatch setup sweep).run s = ((result, next), after) ∧
      next.caches = sweep.caches ∧ view.outside after = view.outside s ∧
      view.Keeps (Database.Reached origin setup.project.id (done ++ batch)) s after ∧
      (result = .ok () ->
        next.Holds checker view origin setup.project.id total (done ++ batch) [] after) := by
  rcases Session.commit_cases halone.vault h.session with
    ⟨committed, session, between, hcommit, houtside, hpending, hcases⟩
  unfold closeBatch
  rw [View.run_bind_of_eq hcommit]
  rcases hcases with ⟨fault, hresult, hsame⟩ |
    ⟨count, hresult, hmoved, hsources, hruns, hsaved⟩
  · subst hresult
    have hreached := h.stage.reached (List.prefix_append done batch)
    refine ⟨_, _, between, rfl, rfl, houtside, View.Keeps.of_same hsame hreached, ?_⟩
    intro hok
    cases hok
  · subst hresult
    have hstage := h.stage.commit hmoved hsources hruns
    have hcommitted := Session.keeps_of_commit hstage hsaved
    rcases publish_preserves halone setup { sweep with session := session.expire } between
      hstage with ⟨hkeeps, houtside'⟩
    refine ⟨_, { sweep with session := session.expire }, _, rfl, rfl,
      houtside'.trans houtside, ?_, ?_⟩
    · exact hcommitted.trans (hkeeps.mono fun db hdb => hdb.reached (List.prefix_refl _))
    · intro _
      refine ⟨hkeeps.database, ⟨?_, hpending⟩, ?_, ?_⟩
      · exact fun _ hloaded => nomatch hloaded
      · rw [List.append_nil]
        exact h.failures
      · rw [List.append_nil]
        exact h.processed

/-- What a sweep of some items leaves behind what was found before: it assesses a first
part of them, and all of them when it ends well. -/
structure Swept (checker : Checker (StateM σ)) (view : View σ ω) (surveyor : Surveyor (StateM ω))
    (setup : Setup) (origin : Database) (total : UInt64) (known : List Finding)
    (keys : List ItemKey) (start : Caches × ω) (s : σ) (result : Except Fault Unit)
    (next : Sweep) (after : σ) (new : List Finding) : Prop where
  assessed : Assessed surveyor setup.provenance origin checker.vault.Unread start new
    (next.caches, view.outside after)
  front : new.map Finding.key <+: keys
  keeps : view.Keeps (Database.Reached origin setup.project.id (known ++ new)) s after
  finished : result = .ok () -> new.map Finding.key = keys ∧
    exists done batch, done ++ batch = known ++ new ∧
      next.Holds checker view origin setup.project.id total done batch after

theorem not_mem_keys_of_nodup {done known : List Finding} {key : ItemKey} {rest : List ItemKey}
    (hlist : done ++ batch = known) (hnodup : (known.map Finding.key ++ key :: rest).Nodup) :
    key ∉ done.map Finding.key := by
  intro hmem
  have hdisjoint := (List.nodup_append.mp hnodup).2.2
  rw [← hlist, List.map_append] at hdisjoint
  exact hdisjoint key (List.mem_append_left _ hmem) key List.mem_cons_self rfl

theorem nodup_keys_snoc {known : List Finding} {finding : Finding} {rest : List ItemKey}
    (hnodup : (known.map Finding.key ++ finding.key :: rest).Nodup) :
    ((known ++ [finding]).map Finding.key ++ rest).Nodup := by
  rw [List.map_append, List.append_assoc]
  exact hnodup

theorem Swept.cons {surveyor : Surveyor (StateM ω)} {setup : Setup} {known new : List Finding}
    {finding : Finding} {keys : List ItemKey} {start middle : Caches × ω} {s between after : σ}
    {result : Except Fault Unit} {next : Sweep}
    (hassess : Assess surveyor setup.provenance origin checker.vault.Unread start finding middle)
    (hkeeps : view.Keeps (Database.Reached origin setup.project.id (known ++ [finding]))
      s between)
    (h : Swept checker view surveyor setup origin total (known ++ [finding]) keys middle between
      result next after new) :
    Swept checker view surveyor setup origin total known (finding.key :: keys) start s result
      next after (finding :: new) := by
  have hlist : known ++ [finding] ++ new = known ++ finding :: new := by
    rw [List.append_assoc]
    rfl
  have hkeeps' := h.keeps
  have hfinished := h.finished
  rw [hlist] at hkeeps' hfinished
  refine ⟨.cons hassess h.assessed, List.cons_prefix_cons.mpr ⟨rfl, h.front⟩, ?_, ?_⟩
  · exact (hkeeps.mono fun db hdb => hdb.mono ⟨new, hlist⟩).trans hkeeps'
  · intro hresult
    rcases hfinished hresult with ⟨hall, hend⟩
    exact ⟨by rw [List.map_cons, hall], hend⟩

/-- A sweep finds something out about every item, unless a batch cannot be closed. -/
theorem sweepAll_spec (halone : checker.Alone view) (hacts : surveyor.storage.Acts view remote)
    (setup : Setup) (hkeyed : origin.Keyed) (keys : List ItemKey) {sweep : Sweep}
    {done known : List Finding} {s : σ}
    (h : sweep.Holds checker view origin setup.project.id total done batch s)
    (hlist : done ++ batch = known)
    (hitems : forall key, key ∈ keys -> exists item, origin.tracked? key = some item)
    (hnodup : (known.map Finding.key ++ keys).Nodup) :
    exists result next after new,
      (checker.sweepAll surveyor setup keys sweep).run s = ((result, next), after) ∧
      Swept checker view (surveyor.over remote) setup origin total known keys
        (sweep.caches, view.outside s) s result next after new := by
  -- On the items that are left: where the batches end differs from step to step, what
  -- is known does not depend on it.
  induction keys generalizing sweep done batch known s with
  | nil =>
      have hreached := h.stage.reached (List.prefix_append done batch)
      rw [hlist, ← List.append_nil known] at hreached
      refine ⟨.ok (), sweep, s, [], rfl, .nil _, List.prefix_refl _,
        View.Keeps.of_same (View.Same.refl s) hreached, ?_⟩
      intro _
      exact ⟨rfl, done, batch, hlist.trans (List.append_nil known).symm, h⟩
  | cons key rest ih =>
      rcases hitems key List.mem_cons_self with ⟨item, hitem⟩
      have hnew := not_mem_keys_of_nodup hlist hnodup
      rcases sweepItem_spec halone hacts setup.provenance h hitem (hkeyed.key_eq hitem) hnew with
        ⟨finding, next, between, hsweep, hfinding, hassess, hdatabase, hsaved, hholds⟩
      subst key
      have hitems' : forall key, key ∈ rest -> exists item, origin.tracked? key = some item :=
        fun key hkey => hitems key (List.mem_cons_of_mem _ hkey)
      have hlist' : done ++ (batch ++ [finding]) = known ++ [finding] := by
        rw [← List.append_assoc, hlist]
      have hnodup' := nodup_keys_snoc hnodup
      have hkeeps : view.Keeps (Database.Reached origin setup.project.id
          (known ++ [finding])) s between := by
        rw [← hlist']
        refine ⟨hholds.stage.reached (List.prefix_append _ _), [], hsaved, ?_⟩
        exact fun _ hdb => nomatch hdb
      unfold sweepAll
      rw [View.run_bind_of_eq hsweep]
      split
      · rcases closeBatch_spec halone hholds with
          ⟨closed, last, final, hclose, hcaches, houtside, hkeeps', hclosed⟩
        rw [hlist'] at hkeeps' hclosed
        rw [← hcaches, ← houtside] at hassess
        rw [View.run_bind_of_eq hclose]
        cases closed with
        | error fault =>
            exact ⟨.error fault, last, final, [finding], rfl, .cons hassess (.nil _),
              ⟨rest, rfl⟩, hkeeps.trans hkeeps', fun hok => nomatch hok⟩
        | ok _ =>
            rcases ih (hclosed rfl) (List.append_nil _) hitems' hnodup' with
              ⟨result, last', after, new, hrun, hswept⟩
            exact ⟨result, last', after, finding :: new, hrun,
              hswept.cons hassess (hkeeps.trans hkeeps')⟩
      · rcases ih hholds hlist' hitems' hnodup' with ⟨result, last, after, new, hrun, hswept⟩
        exact ⟨result, last, after, finding :: new, hrun, hswept.cons hassess hkeeps⟩

end Checker
end Whereabouts
