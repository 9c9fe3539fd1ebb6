import Whereabouts.Proofs.Clockless

/-!
# The size of batches

Where batches end decides when a check writes, and nothing else.  On a store that nobody
else writes, and that does not fail at one access and work at another, checks in batches
of two sizes ask remote storage the same, end alike, and leave the same database but for
the times.
-/

namespace Whereabouts

variable {σ ω : Type} {view : View σ ω}

/-- A vault that can always be read when it can be read at all, and always be written when
it can be written at all. -/
structure Vault.Steady (vault : Vault (StateM σ)) : Prop where
  readable : forall s db, (vault.load.on s).1 = .ok db -> vault.Readable
  writable : forall s db, ((vault.save db).on s).1 = .ok () ->
    forall t other fault, ((vault.save other).on t).1 ≠ .error fault

theorem Vault.Steady.reliable {α : Type} {vault : Vault (StateM σ)} (h : vault.Steady)
    {change : Database -> Except Fault (α × Database)} {s after : σ} {a : α}
    (hon : (vault.transaction change).on s = (.ok a, after)) : vault.Reliable := by
  rcases Attempt.of_on_bind_ok hon with ⟨db, loaded, hload, hrest⟩
  refine ⟨h.readable s db (congrArg Prod.fst hload), ?_⟩
  intro other t fault
  cases hchange : change db with
  | error fault =>
      rw [hchange] at hrest
      cases hrest
  | ok changed =>
      rw [hchange] at hrest
      rcases Attempt.of_on_bind_ok hrest with ⟨_, saved, hsave, _⟩
      exact h.writable loaded changed.2 (congrArg Prod.fst hsave) t other fault

theorem Vault.Reliable.steady {vault : Vault (StateM σ)} (h : vault.Reliable) :
    vault.Steady where
  readable := fun _ _ _ => h.readable
  writable := fun _ _ _ s db fault => h.writable db s fault

/-- A checker with the same rules but for the size of batches. -/
def Checker.batching {m : Type -> Type} (checker : Checker m) (size : Nat) : Checker m :=
  { checker with engine := { checker.engine with batchSize := size } }

namespace Checker

variable {checker : Checker (StateM σ)} {setup : Setup} {origin : Database}
  {connect : String -> Attempt (StateM σ) (Storage (StateM σ))}

theorem Alone.batching (h : checker.Alone view) (size : Nat) :
    (checker.batching size).Alone view :=
  ⟨h.vault, h.now, h.newProcessId, h.trail⟩

/-!
## Beginnings
-/

theorem of_announce_ok (halone : checker.Alone view) (hsteady : checker.vault.Steady) {s after : σ}
    (howned : (view.database s).Owned setup.project.id setup.run.taskId)
    (h : (checker.announce setup).on s = (.ok (), after)) :
    checker.vault.Reliable ∧ (view.database s).HasRunAndTask setup.project.id setup.run.taskId := by
  rcases Attempt.of_on_bind_ok h with ⟨run, between, hupdate, hrest⟩
  refine ⟨hsteady.reliable hupdate, ?_⟩
  rcases Vault.of_transaction_ok halone.vault hupdate with ⟨hchange, _⟩
  rcases Database.updateRun_eq_ok_iff.mp hchange with ⟨key, old, hentry, _, hafter⟩
  have hold := howned old (Database.runOf?_eq_some_iff.mpr ⟨key, hentry⟩)
  have htasks : (view.database between).tasks = (view.database s).tasks := by
    rw [hafter]
  refine ⟨⟨key, old, hentry, hold⟩, ?_⟩
  intro id hid
  rw [hid] at hrest
  rcases Attempt.of_on_bind_ok hrest with ⟨_, _, htask, _⟩
  rcases Check.of_updateTask_ok halone.vault halone.now htask with ⟨time, hchange', _⟩
  rcases Database.updateTask_eq_ok_iff.mp hchange' with ⟨task, hget, _⟩
  rw [htasks] at hget
  exact ⟨task, hget⟩

/-- Whatever the size of batches, a check ends before it is through with its setup and its
announcement, or it is left to go through the items. -/
theorem conduct_batching_cases (halone : checker.Alone view)
    (connect : String -> Attempt (StateM σ) (Storage (StateM σ))) (projectId userId : Int64)
    (externalIds : OrderedMap String (Option String)) (s : σ) :
    (exists ending, forall size,
      ((checker.batching size).conduct projectId userId externalIds connect).run s = ending) ∨
    exists setup storage early ready,
      (view.database s).setup projectId userId = .ok setup ∧ view.Same s early ∧
      (checker.prepare setup connect).on early = (.ok storage, ready) ∧
      forall size outcome known after,
        ((checker.batching size).carryOut setup externalIds connect).run early =
          ((.ok outcome, known), after) ->
        ((checker.batching size).conduct projectId userId externalIds connect).run s =
          ((.ok outcome, known), after) := by
  rcases Vault.snapshot_cases halone.vault s with
    ⟨loaded, first, hloaded, hsame, ⟨fault, _, hresult⟩ | hresult⟩
  · subst hresult
    have hrun : (Check.run? checker.vault projectId).on s = (.error fault, first) :=
      Attempt.on_bind_of_error hloaded
    exact Or.inl ⟨_, fun size => View.run_bind_of_eq hrun⟩
  subst hresult
  have hrun : (Check.run? checker.vault projectId).on s =
      (.ok ((view.database s).runOf? projectId), first) := Attempt.on_bind_of_ok hloaded
  rcases readSetup_cases halone.vault projectId userId first with
    ⟨read, early, hread, hsame', hcases⟩
  rw [hsame.database] at hcases
  let fail (fault : Fault) (t : σ) :=
    (checker.fail projectId ((view.database s).runOf? projectId) fault).on t
  cases read with
  | error fault =>
      refine Or.inl ⟨(((fail fault early).1, externalIds), (fail fault early).2), ?_⟩
      intro size
      exact (View.run_bind_of_eq hrun).trans (View.run_bind_of_eq hread)
  | ok setup =>
      rcases hprepare : (checker.prepare setup connect).on early with ⟨prepared, ready⟩
      cases prepared with
      | error fault =>
          refine Or.inl ⟨(((fail fault ready).1, externalIds), (fail fault ready).2), ?_⟩
          intro size
          have hcarry : ((checker.batching size).carryOut setup externalIds connect).run early =
              ((.error fault, externalIds), ready) := View.run_bind_of_eq hprepare
          refine (View.run_bind_of_eq hrun).trans ((View.run_bind_of_eq hread).trans ?_)
          exact View.run_bind_of_eq hcarry
      | ok storage =>
          refine Or.inr ⟨setup, storage, early, ready, hcases setup rfl, hsame.trans hsame',
            hprepare, ?_⟩
          intro size outcome known after hcarry
          refine (View.run_bind_of_eq hrun).trans ((View.run_bind_of_eq hread).trans ?_)
          exact View.run_bind_of_eq hcarry

theorem carryOut_completes (halone : checker.Alone view) (hreliable : checker.vault.Reliable)
    (hquietly : ConnectsQuietly connect view) (externalIds : OrderedMap String (Option String))
    {storage : Storage (StateM σ)} {s ready : σ}
    (hs : (view.database s).HasRunAndTask setup.project.id setup.run.taskId)
    (hprepare : (checker.prepare setup connect).on s = (.ok storage, ready)) :
    exists outcome known mid after,
      (checker.carryOut setup externalIds connect).run s = ((.ok outcome, known), after) ∧
      outcome.projectId = setup.project.id ∧ outcome.status = .completed ∧
      outcome.message =
        finalMessage outcome.totalItems (UInt64.ofNat outcome.failures.length) ∧
      view.Follows (Database.SweepStep setup.project.id setup.run.taskId) s mid ∧
      view.Closes setup.project.id setup.run.taskId .completed outcome.message mid after := by
  rcases Attempt.of_on_bind_ok hprepare with ⟨_, between, hannounce, hconnect⟩
  have hquiet : (checker.surveyor storage).storage.Quiet view :=
    hquietly.quiet setup.token between storage (congrArg Prod.fst hconnect)
  have hready : view.Follows (Database.SweepStep setup.project.id setup.run.taskId) s ready := by
    have hannounced : view.Follows (Database.SweepStep setup.project.id setup.run.taskId) s
        ((checker.announce setup).on s).2 := savesBy_announce halone s
    rw [hannounce] at hannounced
    exact hannounced.trans (.of_same ((hquietly.still setup.token).of_on hconnect))
  have hrunAndTask := hready.hasRunAndTask hs
  rcases sweepAll_succeeds halone hreliable hquiet setup.work (.start externalIds) hrunAndTask with
    ⟨sweep, swept, hsweep⟩
  have hswept : view.Follows (Database.SweepStep setup.project.id setup.run.taskId) ready
      ((checker.sweepAll (checker.surveyor storage) setup setup.work
        (.start externalIds)).run ready).2 :=
    savesBy_sweepAll halone hquiet setup.work _ ready
  rw [hsweep] at hswept
  rcases finish_succeeds halone hreliable sweep (hswept.hasRunAndTask hrunAndTask) with
    ⟨outcome, mid, after, hfinish, hstatus, hmid, hcloses⟩
  rcases of_finish_ok hfinish with ⟨hproject, hmessage⟩
  refine ⟨outcome, sweep.caches.externalIds, mid, after, ?_, hproject, hstatus, hmessage,
    (hready.trans hswept).trans hmid, hcloses⟩
  unfold carryOut
  rw [View.run_bind_of_eq hprepare, View.run_bind_of_eq hsweep]
  exact View.run_bind_of_eq hfinish

end Checker

/-!
## Ends
-/

section Ends

variable {checker : Checker (StateM σ)} {setup : Setup} {origin after : Database}
  {findings : List Finding} {outcome : CheckOutcome} {size : Nat}

theorem Reported.of_batching {failures : List ItemFailure}
    (h : Reported (checker.batching size) origin findings failures) :
    Reported checker origin findings failures :=
  List.Forall₂.imp (fun _ _ hreports => ⟨hreports.key, hreports.error, hreports.path⟩) h

theorem Rounded.of_batching
    (h : Rounded (checker.batching size) origin setup findings outcome after) :
    Rounded checker origin setup findings outcome after :=
  { failures := h.failures.of_batching, moved := h.moved, totalItems := h.totalItems,
    itemsChecked := h.itemsChecked, run := h.run, projectId := h.projectId,
    status := h.status, message := h.message, sameButCheck := h.sameButCheck, ended := h.ended,
    task := h.task }

end Ends

theorem Checker.conduct_rounds {checker : Checker (StateM σ)} {remote : Storage (StateM ω)}
    {connect : String -> Attempt (StateM σ) (Storage (StateM σ))} {setup : Setup}
    (halone : checker.Alone view) (hconnects : Connects connect view remote)
    {projectId userId : Int64} {externalIds known : OrderedMap String (Option String)}
    {s mid after : σ} {outcome : CheckOutcome} (hkeyed : (view.database s).Keyed)
    (hsetup : (view.database s).setup projectId userId = .ok setup)
    (hrun : (checker.conduct projectId userId externalIds connect).run s =
      ((.ok outcome, known), after))
    (hproject : outcome.projectId = setup.project.id) (hstatus : outcome.status = .completed)
    (hmessage : outcome.message =
      finalMessage outcome.totalItems (UInt64.ofNat outcome.failures.length))
    (hcloses : view.Closes setup.project.id setup.run.taskId .completed outcome.message mid
      after) :
    exists findings caches, known = caches.externalIds ∧
      Assessed (checker.surveyor remote) setup.provenance (view.database s)
        checker.vault.Unread ((Sweep.start externalIds).caches, view.outside s) findings
        (caches, view.outside after) ∧
      findings.map Finding.key = setup.work ∧
      Rounded checker (view.database s) setup findings outcome (view.database after) := by
  have hfollows := conduct_follows halone hconnects.quietly projectId userId externalIds s
    (hkeyed.projects projectId)
  rcases conduct_spec halone hconnects projectId userId externalIds s hkeyed with
    ⟨result, findings, caches, final, hconduct, _, hcases⟩
  rw [hrun] at hconduct hfollows
  cases hconduct
  rcases hcases with ⟨_, _, _, hfailed⟩ | ⟨other, hother, hassessed, _, hend⟩
  · rw [hfailed outcome rfl] at hstatus
    cases hstatus
  rw [hsetup] at hother
  cases hother
  rcases hend outcome rfl hstatus with ⟨hkeys, hsettled⟩
  rcases Database.of_setup_eq_ok hsetup with ⟨hget, _, hrunOf, _⟩
  have hid : setup.project.id = projectId := hkeyed.projects _ _ hget
  have hsameBut := (hfollows.keeps (Database.SameButCheck.refl (view.database s))
    fun x y hx hstep => ⟨hx.trans (Database.CheckStep.sameButCheck hstep), hstep⟩).1.database
  rw [hrunOf, ← hid] at hsameBut
  rcases hcloses with ⟨_, _, hclosing⟩
  rcases hclosing.rows with ⟨⟨run, hlast, hended⟩, htask⟩
  refine ⟨findings, caches, rfl, hassessed, hkeys, hsettled, hproject, hstatus, hmessage,
    hsameBut, ?_, htask⟩
  intro other hother
  rw [hlast] at hother
  cases hother
  exact hended

/-!
## Two checks
-/

/-- Two checks from one state in batches of two sizes make the same exchanges with remote
storage, end in the same way, know the same external ids, and leave the same database but
for times. -/
theorem conduct_batching {checker : Checker (StateM σ)} {view : View σ (Recorded ω)}
    {remote : Storage (StateM ω)}
    {connect : String -> Attempt (StateM σ) (Storage (StateM σ))}
    (halone : checker.Alone view) (hsteady : checker.vault.Steady)
    (hconnects : Connects connect view remote.recorded)
    {projectId userId : Int64} {externalIds : OrderedMap String (Option String)} {s : σ}
    (hkeyed : (view.database s).Keyed) {size size' : Nat}
    {result result' : Except Fault CheckOutcome}
    {known known' : OrderedMap String (Option String)} {after after' : σ}
    (hrun : ((checker.batching size).conduct projectId userId externalIds connect).run s =
      ((result, known), after))
    (hrun' : ((checker.batching size').conduct projectId userId externalIds connect).run s =
      ((result', known'), after')) :
    (view.outside after').exchanges = (view.outside after).exchanges ∧
      result' = result ∧ known' = known ∧
      (view.database after').clockless = (view.database after).clockless := by
  rcases Checker.conduct_batching_cases halone connect projectId userId externalIds s with
    ⟨ending, hending⟩ | ⟨setup, storage, early, ready, hsetup, hsame, hprepare, hgo⟩
  · rw [hending size] at hrun
    rw [hending size', hrun] at hrun'
    cases hrun'
    exact ⟨rfl, rfl, rfl, rfl⟩
  rcases Database.of_setup_eq_ok hsetup with ⟨hget, _, hrunOf, _⟩
  have hid : setup.project.id = projectId := hkeyed.projects _ _ hget
  have howned : (view.database early).Owned setup.project.id setup.run.taskId := by
    intro run hrun
    rw [hsame.database, hid, hrunOf] at hrun
    cases hrun
    rfl
  rcases Attempt.of_on_bind_ok hprepare with ⟨_, between, hannounce, _⟩
  rcases Checker.of_announce_ok halone hsteady howned hannounce with ⟨hreliable, hrunAndTask⟩
  have hends : forall size, exists outcome findings caches final,
      ((checker.batching size).conduct projectId userId externalIds connect).run s =
        ((.ok outcome, caches.externalIds), final) ∧
      Assessed ((checker.batching size).surveyor remote.recorded) setup.provenance
        (view.database s) checker.vault.Unread
        ((Sweep.start externalIds).caches, view.outside s) findings
        (caches, view.outside final) ∧
      findings.map Finding.key = setup.work ∧
      Rounded checker (view.database s) setup findings outcome (view.database final) := by
    intro size
    rcases Checker.carryOut_completes (halone.batching size) hreliable hconnects.quietly
      externalIds hrunAndTask hprepare with
      ⟨outcome, known, mid, final, hcarry, hproject, hstatus, hmessage, _, hcloses⟩
    have hconduct := hgo size outcome known final hcarry
    rcases Checker.conduct_rounds (halone.batching size) hconnects hkeyed hsetup hconduct hproject
      hstatus hmessage hcloses with ⟨findings, caches, rfl, hassessed, hkeys, hrounded⟩
    exact ⟨outcome, findings, caches, final, hconduct, hassessed, hkeys, hrounded.of_batching⟩
  rcases hends size with ⟨outcome, findings, caches, final, hconduct, hassessed, hkeys, hrounded⟩
  rcases hends size' with
    ⟨outcome', findings', caches', final', hconduct', hassessed', hkeys', hrounded'⟩
  rw [hconduct] at hrun
  rw [hconduct'] at hrun'
  cases hrun
  cases hrun'
  have hassessed'' : Assessed (((checker.batching size).surveyor remote.recorded).batching size')
      setup.provenance (view.database s) checker.vault.Unread
      ((Sweep.start externalIds).caches, view.outside s) findings'
      (caches', view.outside after') := hassessed'
  rcases hassessed.clockless_eq hreliable.readable hassessed'' (hkeys'.trans hkeys.symm) with
    ⟨hafter, hfindings⟩
  rw [Prod.mk.injEq] at hafter
  rw [← hid] at hrunOf
  refine ⟨congrArg Recorded.exchanges hafter.2, ?_, ?_, ?_⟩
  · rw [Rounded.outcome_eq hreliable.readable hrunOf hfindings hrounded hrounded']
  · rw [hafter.1]
  · exact Rounded.clockless_eq hreliable.readable hrunOf hfindings hrounded hrounded'

namespace Sample

def recordedChecker (vault : Vault (StateM (MemoryWorld (Recorded Unit)))) :
    Checker (StateM (MemoryWorld (Recorded Unit))) :=
  { MemoryWorld.checker engine 4 time with vault }

def batched (vault : Vault (StateM (MemoryWorld (Recorded Unit))))
    (storage : Storage (StateM (MemoryWorld (Recorded Unit)))) (size : Nat) :
    (Except Fault CheckOutcome × OrderedMap String (Option String)) × MemoryWorld (Recorded Unit) :=
  (((recordedChecker vault).batching size).conduct 1 1 .empty (fun _ => pure storage)).run
    recordedMemory

def recordedStorage : Storage (StateM (MemoryWorld (Recorded Unit))) :=
  MemoryWorld.storage (Storage.answering answers).recorded

/-- The sample's remote storage, while somebody else writes to the database: whenever a
project is looked up, the third image is moved to a public system. -/
def meddledStorage : Storage (StateM (MemoryWorld (Recorded Unit))) :=
  { recordedStorage with
    externalId := fun system => ExceptT.mk do
      modify fun memory => { memory with
        database := memory.database.setLocation ⟨.asset, 3⟩
          (placed "designsafe.storage.community" "/c.jpg") }
      (recordedStorage.externalId system).run }

/-- A vault with room for a few databases. -/
def crampedVault (room : Nat) : Vault (StateM (MemoryWorld (Recorded Unit))) :=
  { MemoryWorld.vault with
    save := fun db memory =>
      if memory.saved.length < room then
        (.ok (), { memory with database := db, saved := db :: memory.saved })
      else (.error (.other "no space left"), memory) }

theorem crampedVault_save_cases (room : Nat) (db : Database)
    (memory : MemoryWorld (Recorded Unit)) :
    ((crampedVault room).save db).on memory =
        (.ok (), { memory with database := db, saved := db :: memory.saved }) ∨
      ((crampedVault room).save db).on memory = (.error (.other "no space left"), memory) := by
  by_cases hroom : memory.saved.length < room
  · exact Or.inl (if_pos hroom)
  · exact Or.inr (if_neg hroom)

theorem crampedVault_holds (room : Nat) : (crampedVault room).Holds MemoryWorld.view where
  load_still := MemoryWorld.vault_holds.load_still
  load_eq := MemoryWorld.vault_holds.load_eq
  save_ok := by
    intro db memory hok
    rcases crampedVault_save_cases room db memory with hsave | hsave
    · rw [hsave]
      exact ⟨rfl, rfl, rfl⟩
    · rw [hsave] at hok
      cases hok
  save_error := by
    intro db memory fault hfault
    rcases crampedVault_save_cases room db memory with hsave | hsave
    · rw [hsave] at hfault
      cases hfault
    · rw [hsave]
      exact View.Same.refl memory

theorem recordedChecker_alone {vault : Vault (StateM (MemoryWorld (Recorded Unit)))}
    (hvault : vault.Holds MemoryWorld.view) : (recordedChecker vault).Alone MemoryWorld.view where
  vault := hvault
  now := View.still_pure time
  newProcessId := View.still_pure "process"
  trail := fun _ => View.still_pure _

end Sample

/-- One batch for all three items, or a batch for each: the same check, with other saves. -/
theorem conduct_batching_sample :
    exists result known after result' known' after',
      Sample.batched MemoryWorld.vault Sample.recordedStorage 1 = ((result, known), after) ∧
      Sample.batched MemoryWorld.vault Sample.recordedStorage 3 = ((result', known'), after') ∧
      after.saved.length = 7 ∧ after'.saved.length = 4 ∧
      after.outside.exchanges.length = 3 ∧
      after'.outside.exchanges = after.outside.exchanges ∧ result' = result ∧
      known' = known ∧ after'.database.clockless = after.database.clockless := by
  have hlength : (Sample.batched MemoryWorld.vault Sample.recordedStorage
      1).2.saved.length = 7 := by decide +kernel
  have hlength' : (Sample.batched MemoryWorld.vault Sample.recordedStorage
      3).2.saved.length = 4 := by decide +kernel
  have hexchanges : (Sample.batched MemoryWorld.vault Sample.recordedStorage
      1).2.outside.exchanges.length = 3 := by decide +kernel
  have hsteady : (MemoryWorld.vault : Vault (StateM (MemoryWorld (Recorded Unit)))).Steady :=
    MemoryWorld.vault_reliable.steady
  have hkeyed : (MemoryWorld.view.database Sample.recordedMemory).Keyed := by decide
  rcases hrun : Sample.batched MemoryWorld.vault Sample.recordedStorage 1 with
    ⟨⟨result, known⟩, after⟩
  rcases hrun' : Sample.batched MemoryWorld.vault Sample.recordedStorage 3 with
    ⟨⟨result', known'⟩, after'⟩
  rw [hrun] at hlength hexchanges
  rw [hrun'] at hlength'
  exact ⟨result, known, after, result', known', after', rfl, rfl, hlength, hlength', hexchanges,
    @conduct_batching _ _ (Sample.recordedChecker MemoryWorld.vault) MemoryWorld.view _ _
      (Sample.recordedChecker_alone MemoryWorld.vault_holds) hsteady Sample.recordedConnects 1 1
      .empty Sample.recordedMemory hkeyed 1 3 result result' known known' after after' hrun hrun'⟩

/-- Somebody else who writes to the database, or a store that fails after a few saves, lets
the size of batches show. -/
theorem batching_shows_when_disturbed :
    Sample.database.Keyed ∧
    (Sample.batched MemoryWorld.vault Sample.meddledStorage 3).2.outside.exchanges ≠
      (Sample.batched MemoryWorld.vault Sample.meddledStorage 1).2.outside.exchanges ∧
    (Sample.recordedChecker (Sample.crampedVault 5)).Alone MemoryWorld.view ∧
    ((Sample.batched (Sample.crampedVault 5) Sample.recordedStorage 3).1.1.toOption.map
      CheckOutcome.status = some .completed) ∧
    ((Sample.batched (Sample.crampedVault 5) Sample.recordedStorage 1).1.1.toOption.map
      CheckOutcome.status = none) := by
  have hthree : (Sample.batched MemoryWorld.vault Sample.meddledStorage
      3).2.outside.exchanges.length = 3 := by decide +kernel
  have htwo : (Sample.batched MemoryWorld.vault Sample.meddledStorage
      1).2.outside.exchanges.length = 2 := by decide +kernel
  refine ⟨by decide, ?_, ?_, by decide +kernel, by decide +kernel⟩
  · intro hsame
    rw [hsame, htwo] at hthree
    cases hthree
  · exact Sample.recordedChecker_alone (Sample.crampedVault_holds 5)

end Whereabouts
