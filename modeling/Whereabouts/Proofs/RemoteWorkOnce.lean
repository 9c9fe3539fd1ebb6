import Mathlib.Data.List.Forall2
import Whereabouts.Proofs.MemoryWorld
import Whereabouts.Proofs.Observation

/-!
# Remote work is done once

What checks ask of remote storage one after the other, when they share what is known of
external projects.  Nothing is assumed of the answers, of the items or of where a check
fails.
-/

namespace Whereabouts

variable {σ α β : Type}

/-!
## Events of one item
-/

/-- The events show a piece of work each, and what a build takes is listings of one system. -/
structure CheckEvent.Show (engine : EngineSettings) (events : List CheckEvent)
    (work : List RemoteWork) : Prop where
  untimed : .time ∉ events
  work : events.filterMap CheckEvent.work? = work
  listings : forall target calls, .build target calls ∈ events -> forall call, call ∈ calls ->
    exists path answer, call = .list (target.system engine) path answer

namespace CheckEvent

variable {engine : EngineSettings} {events more : List CheckEvent} {work others : List RemoteWork}

theorem Show.nil (engine : EngineSettings) : Show engine [] [] where
  untimed := List.not_mem_nil
  work := rfl
  listings := (fun _ _ h => nomatch h)

theorem Show.call (engine : EngineSettings) (exchange : Exchange) :
    Show engine [.call exchange] [.call exchange] where
  untimed := (fun h => nomatch List.mem_singleton.mp h)
  work := rfl
  listings := (fun _ _ h => nomatch List.mem_singleton.mp h)

theorem Show.build {target : IndexTarget} {calls : List Exchange}
    (h : forall call, call ∈ calls -> exists path answer,
      call = .list (target.system engine) path answer) :
    Show engine [.build target calls] [.build target] where
  untimed := (fun h => nomatch List.mem_singleton.mp h)
  work := rfl
  listings := by
    intro other calls' hmem
    cases List.mem_singleton.mp hmem
    exact h

theorem Show.append (h : Show engine events work) (h' : Show engine more others) :
    Show engine (events ++ more) (work ++ others) where
  untimed := by
    intro htime
    rcases List.mem_append.mp htime with htime | htime
    · exact h.untimed htime
    · exact h'.untimed htime
  work := by rw [List.filterMap_append, h.work, h'.work]
  listings := by
    intro target calls hmem
    rcases List.mem_append.mp hmem with hmem | hmem
    · exact h.listings target calls hmem
    · exact h'.listings target calls hmem

theorem filterMap_lookup?
    (h : forall target calls, .build target calls ∈ events -> forall call, call ∈ calls ->
      exists path answer, call = .list (target.system engine) path answer) :
    (events.flatMap CheckEvent.calls).filterMap Exchange.lookup? =
      (events.filterMap CheckEvent.work?).filterMap RemoteWork.lookup? := by
  induction events with
  | nil => rfl
  | cons event rest ih =>
      have hrest := ih fun target calls hmem => h target calls (List.mem_cons_of_mem _ hmem)
      rw [List.flatMap_cons, List.filterMap_append, hrest]
      cases event with
      | time => rfl
      | call exchange =>
          cases hlookup : exchange.lookup? <;>
            simp [calls, work?, RemoteWork.lookup?, hlookup]
      | build target listed =>
          have hnone : listed.filterMap Exchange.lookup? = [] := by
            apply List.filterMap_eq_nil_iff.mpr
            intro call hcall
            rcases h target listed List.mem_cons_self call hcall with ⟨path, answer, rfl⟩
            rfl
          change listed.filterMap Exchange.lookup? ++ _ = _
          rw [hnone]
          rfl

end CheckEvent

namespace Surveyor

variable {surveyor : Surveyor (StateM (Observed σ))} {storage : Storage (StateM σ)}
  {start after : Caches × Observed σ} {piece : Option RemoteWork} {work : List RemoteWork}

theorem events_of_run {x : StateM (Observed σ) α} (event : α -> CheckEvent)
    (hseen : forall s, (x.run s).2.events = event (x.run s).1 :: s.events) {s next : Observed σ}
    {a : α} (h : x.run s = (a, next)) : next.events = event a :: s.events := by
  have hevents := hseen s
  rw [h] at hevents
  exact hevents

theorem Move.events (hstorage : surveyor.storage = storage.observed)
    (h : surveyor.Move (Observed.build surveyor) start piece after) :
    exists events, after.2.events = events.reverse ++ start.2.events ∧
      CheckEvent.Show surveyor.engine events piece.toList := by
  cases h with
  | answered _ _ hcall | refused _ _ hcall =>
      rw [hstorage] at hcall
      exact ⟨[_], events_of_run (fun answer => .call (.externalId _ answer)) (fun _ => rfl) hcall,
        .call _ _⟩
  | described hcall =>
      rw [hstorage] at hcall
      exact ⟨[_], events_of_run (fun answer => .call (.stat _ _ answer)) (fun _ => rfl) hcall,
        .call _ _⟩
  | listed hcall =>
      rw [hstorage] at hcall
      exact ⟨[_], events_of_run (fun answer => .call (.list _ _ answer)) (fun _ => rfl) hcall,
        .call _ _⟩
  | uncopied => exact ⟨[], rfl, .nil _⟩
  | @copied _ world _ _ _ _ _ _ _ hbuild | @surveyed _ world _ _ _ _ hbuild =>
      rcases (Observed.run_build hstorage _ world).2 with ⟨calls, hevents, hlistings⟩
      rw [hbuild] at hevents
      exact ⟨[_], hevents, .build hlistings⟩

theorem Moves.events (hstorage : surveyor.storage = storage.observed)
    (h : surveyor.Moves (Observed.build surveyor) start work after) :
    exists events, after.2.events = events.reverse ++ start.2.events ∧
      CheckEvent.Show surveyor.engine events work := by
  induction h with
  | nil start => exact ⟨[], rfl, .nil _⟩
  | cons first others ih =>
      rcases first.events hstorage with ⟨early, hearly, hshow⟩
      rcases ih with ⟨late, hlate, hshow'⟩
      refine ⟨early ++ late, ?_, hshow.append hshow'⟩
      rw [hlate, hearly, List.reverse_append, List.append_assoc]

end Surveyor

/-!
## Events of a check
-/

/-- A part without a reading of the clock lies before or behind any such reading. -/
theorem CheckEvent.infix_append_time {early late turn : List CheckEvent}
    (h : turn <:+: early ++ .time :: late) (hturn : .time ∉ turn) :
    turn <:+: early ∨ turn <:+: late := by
  induction early with
  | nil =>
      rcases List.infix_cons_iff.mp h with hfront | hinfix
      · cases turn with
        | nil => exact Or.inl List.nil_infix
        | cons first rest =>
            rw [List.cons_prefix_cons] at hfront
            rw [hfront.1] at hturn
            exact absurd List.mem_cons_self hturn
      · exact Or.inr hinfix
  | cons event early ih =>
      rcases List.infix_cons_iff.mp h with hfront | hinfix
      · left
        have hwhole : event :: early <+: event :: (early ++ .time :: late) :=
          List.prefix_append (event :: early) _
        rcases Nat.lt_or_ge (event :: early).length turn.length with hlonger | hshorter
        · -- A longer part would have the reading in it.
          have htimed : (event :: early) ++ [.time] <+: event :: (early ++ .time :: late) :=
            ⟨late, by simp⟩
          have hreached := List.prefix_of_prefix_length_le htimed hfront
            (by rw [List.length_append]; exact hlonger)
          exact absurd (hreached.subset (List.mem_append_right _ (List.mem_singleton_self _)))
            hturn
        · exact (List.prefix_of_prefix_length_le hfront hwhole hshorter).isInfix
      · rcases ih hinfix with hearly | hlate
        · exact Or.inl (hearly.trans (List.suffix_cons event early).isInfix)
        · exact Or.inr hlate

theorem RemoteWork.InOrder.of_infix {plan : List RemoteWork.Kind} {part work : List RemoteWork}
    (h : RemoteWork.InOrder plan work) (hpart : part <:+: work) :
    RemoteWork.InOrder plan part where
  planned := (hpart.sublist.map RemoteWork.kind).trans h.planned
  answered := by
    intro piece hpiece
    rcases hpart with ⟨early, late, rfl⟩
    apply h.answered
    cases part with
    | nil => cases hpiece
    | cons first rest =>
        cases late with
        | nil =>
            rw [List.append_nil, List.dropLast_append_of_ne_nil (List.cons_ne_nil _ _)]
            exact List.mem_append_right _ hpiece
        | cons other others =>
            rw [List.dropLast_append_of_ne_nil (List.cons_ne_nil _ _)]
            exact List.mem_append_left _
              (List.mem_append_right _ (List.dropLast_subset _ hpiece))

/-- The events by which caches became others.  They start with a reading of the clock, and
what lies between two readings is the work of a pass. -/
structure CacheHistory (engine : EngineSettings) (before : Caches) (events : List CheckEvent)
    (after : Caches) : Prop where
  externalIds : before.externalIds.Learns after.externalIds
    ((events.filterMap CheckEvent.work?).filterMap RemoteWork.lookup?)
  published : before.published.Learns after.published
    (((events.filterMap CheckEvent.work?).filterMap RemoteWork.published?).map
      fun system => (system, true))
  owners : before.owners.Learns after.owners
    (((events.filterMap CheckEvent.work?).filterMap RemoteWork.owner?).map
      fun owner => (owner, true))
  project : forall system answer,
    .call (.externalId system answer) ∈ events.filterMap CheckEvent.work? ->
      (engine.projectUuid? system).isSome = true
  linked : forall system id, .build (.published system id) ∈ events.filterMap CheckEvent.work? ->
    after.externalIds.get? system = some (some id)
  listings : forall target calls, .build target calls ∈ events -> forall call, call ∈ calls ->
    exists path answer, call = .list (target.system engine) path answer
  opens : forall event, event ∈ events.head? -> event = .time
  turns : forall turn, turn <:+: events -> .time ∉ turn ->
    RemoteWork.InOrder Surveyor.plan (turn.filterMap CheckEvent.work?)

namespace CacheHistory

variable {engine : EngineSettings} {before between after : Caches}
  {early late : List CheckEvent}

theorem trans (h : CacheHistory engine before early between)
    (h' : CacheHistory engine between late after) :
    CacheHistory engine before (early ++ late) after where
  externalIds := by
    rw [List.filterMap_append, List.filterMap_append]
    exact h.externalIds.trans h'.externalIds
  published := by
    rw [List.filterMap_append, List.filterMap_append, List.map_append]
    exact h.published.trans h'.published
  owners := by
    rw [List.filterMap_append, List.filterMap_append, List.map_append]
    exact h.owners.trans h'.owners
  project := by
    intro system answer hlookup
    rw [List.filterMap_append] at hlookup
    rcases List.mem_append.mp hlookup with hlookup | hlookup
    · exact h.project system answer hlookup
    · exact h'.project system answer hlookup
  linked := by
    intro system id hbuild
    rw [List.filterMap_append] at hbuild
    rcases List.mem_append.mp hbuild with hbuild | hbuild
    · exact h'.externalIds.kept system _ (h.linked system id hbuild)
    · exact h'.linked system id hbuild
  listings := by
    intro target calls hbuild
    rcases List.mem_append.mp hbuild with hbuild | hbuild
    · exact h.listings target calls hbuild
    · exact h'.listings target calls hbuild
  opens := by
    intro event hevent
    cases early with
    | nil => exact h'.opens event hevent
    | cons first rest => exact h.opens event hevent
  turns := by
    intro turn hturn huntimed
    cases late with
    | nil =>
        rw [List.append_nil] at hturn
        exact h.turns turn hturn huntimed
    | cons first rest =>
        cases h'.opens first rfl
        rcases CheckEvent.infix_append_time hturn huntimed with hearly | hlate
        · exact h.turns turn hearly huntimed
        · exact h'.turns turn (hlate.trans (List.suffix_cons _ rest).isInfix) huntimed

theorem of_moves {surveyor : Surveyor (StateM (Observed σ))}
    {build : IndexTarget -> StateM (Observed σ) FileIndex} {s final : Observed σ}
    {times shown : List CheckEvent} {work : List RemoteWork}
    (htimes : forall event, event ∈ CheckEvent.time :: times -> event = .time)
    (hmoves : surveyor.Moves build (before, s) work (after, final))
    (hshow : CheckEvent.Show surveyor.engine shown work)
    (horder : RemoteWork.InOrder Surveyor.plan work) :
    CacheHistory surveyor.engine before (.time :: times ++ shown) after := by
  have hnone : (CheckEvent.time :: times).filterMap CheckEvent.work? = [] := by
    apply List.filterMap_eq_nil_iff.mpr
    intro event hevent
    rw [htimes event hevent]
    rfl
  have hwork : (CheckEvent.time :: times ++ shown).filterMap CheckEvent.work? = work := by
    rw [List.filterMap_append, hnone, hshow.work]
    rfl
  exact {
    externalIds := by
      rw [hwork]
      exact hmoves.externalIds
    published := by
      rw [hwork]
      exact hmoves.published
    owners := by
      rw [hwork]
      exact hmoves.owners
    project := by
      intro system answer hlookup
      rw [hwork] at hlookup
      exact hmoves.project hlookup
    linked := by
      intro system id hbuild
      rw [hwork] at hbuild
      exact hmoves.linked hbuild
    listings := by
      intro target calls hbuild
      rcases List.mem_append.mp hbuild with htime | hbuild
      · cases htimes _ htime
      · exact hshow.listings target calls hbuild
    opens := by
      intro event hevent
      cases hevent
      rfl
    turns := by
      intro turn hturn _
      apply horder.of_infix
      rw [<- hwork]
      exact hturn.filterMap CheckEvent.work? }

theorem of_times {events : List CheckEvent} (h : forall event, event ∈ events -> event = .time)
    (engine : EngineSettings) (caches : Caches) :
    CacheHistory engine caches events caches := by
  have hnone : forall part : List CheckEvent, part <:+: events ->
      part.filterMap CheckEvent.work? = [] := by
    intro part hpart
    apply List.filterMap_eq_nil_iff.mpr
    intro event hevent
    rw [h event (hpart.subset hevent)]
    rfl
  have hwork := hnone events List.infix_rfl
  exact {
    externalIds := by
      rw [hwork]
      exact .refl _
    published := by
      rw [hwork]
      exact .refl _
    owners := by
      rw [hwork]
      exact .refl _
    project := by
      intro system answer hlookup
      rw [hwork] at hlookup
      cases hlookup
    linked := by
      intro system id hbuild
      rw [hwork] at hbuild
      cases hbuild
    listings := by
      intro target calls hbuild
      cases h _ hbuild
    opens := fun event hevent => h event (List.mem_of_mem_head? hevent)
    turns := by
      intro turn hturn _
      rw [hnone turn hturn]
      exact .nil _ }

end CacheHistory

/-!
## Observed checks
-/

/-- An observed operation goes as it does unseen.  The events in it are those by which caches
became others, of which its result tells. -/
def Observed.Traces (engine : EngineSettings) (before : Caches) (after : α -> Caches -> Prop)
    (x : StateM (Observed σ) α) (y : StateM σ α) : Prop :=
  forall s, y.run s.inner = ((x.run s).1, (x.run s).2.inner) ∧
    exists events caches, (x.run s).2.events = events.reverse ++ s.events ∧
      CacheHistory engine before events caches ∧ after (x.run s).1 caches

namespace Observed.Traces

variable {engine : EngineSettings} {before : Caches} {middle : α -> Caches -> Prop}
  {after : β -> Caches -> Prop}

theorem of_times {x : StateM (Observed σ) α} {y : StateM σ α}
    (h : (Observed.lockstep fun event => event = .time).Rel x y)
    (hmiddle : forall s, middle (x.run s).1 before) : Traces engine before middle x y := by
  intro s
  rcases h s with ⟨hrun, events, hevents, htimes⟩
  exact ⟨hrun, events, before, hevents, .of_times htimes engine before, hmiddle s⟩

theorem pure {a : α} (h : middle a before) :
    Traces engine before middle (Pure.pure a : StateM (Observed σ) α) (Pure.pure a) :=
  of_times (Lockstep.rel_pure _ a) fun _ => h

theorem bind {x : StateM (Observed σ) α} {y : StateM σ α} {f : α -> StateM (Observed σ) β}
    {g : α -> StateM σ β} (hx : Traces engine before middle x y)
    (hf : forall a caches, middle a caches -> Traces engine caches after (f a) (g a)) :
    Traces engine before after (x >>= f) (y >>= g) := by
  intro s
  rcases hx s with ⟨hrun, early, caches, hearly, hhistory, hmiddle⟩
  rcases hf _ caches hmiddle (x.run s).2 with ⟨hrun', late, known, hlate, hhistory', hafter⟩
  refine ⟨?_, early ++ late, known, ?_, hhistory.trans hhistory', hafter⟩
  · rw [StateT.run_bind, hrun]
    exact hrun'
  · rw [List.reverse_append, List.append_assoc, <- hearly]
    exact hlate

end Observed.Traces

namespace Checker

theorem caches_closeBatch (checker : Checker (StateM σ)) (setup : Setup) (sweep : Sweep) (s : σ) :
    ((checker.closeBatch setup sweep).run s).1.2.caches = sweep.caches := by
  unfold closeBatch
  rcases hcommit : (sweep.session.commit checker.vault).run s with ⟨⟨committed, session⟩, saved⟩
  rw [View.run_bind_of_eq hcommit]
  cases committed <;> rfl

variable (checker : Checker (StateM σ)) (storage : Storage (StateM σ))

theorem traces_process (provenance : Provenance) (session : Session) (caches : Caches)
    (key : ItemKey) :
    Observed.Traces checker.engine caches (fun out known => out.2.2 = known)
      (checker.observed.process (checker.observed.surveyor storage.observed) provenance session
        caches key (Observed.build (checker.observed.surveyor storage.observed)))
      (checker.process (checker.surveyor storage) provenance session caches key) := by
  intro s
  rcases hnow : checker.clock.now.run s.inner with ⟨time, ticked⟩
  have hseen : checker.observed.clock.now.run s =
      (time, { events := .time :: s.events, inner := ticked }) := by
    show Observed.seen (fun _ => CheckEvent.time) checker.clock.now s = _
    unfold Observed.seen
    rw [hnow]
  rcases (Observed.checkers checker).fetch session key
    { events := .time :: s.events, inner := ticked } with ⟨hfetch, times, hevents, htimes⟩
  rcases hfetched : (checker.observed.fetch session key).run
    { events := .time :: s.events, inner := ticked } with ⟨⟨fetched, next⟩, read⟩
  rw [hfetched] at hfetch hevents
  have hall : forall event, event ∈ CheckEvent.time :: times -> event = .time := by
    intro event hevent
    rcases List.mem_cons.mp hevent with hevent | hevent
    · exact hevent
    · exact htimes event hevent
  have hread : read.events = (CheckEvent.time :: times).reverse ++ s.events := by
    rw [hevents, List.reverse_cons, List.append_assoc]
    rfl
  unfold process
  rw [View.run_bind_of_eq hnow, View.run_bind_of_eq hfetch, View.run_bind_of_eq hseen,
    View.run_bind_of_eq hfetched]
  cases fetched with
  | error fault => exact ⟨rfl, _, caches, hread, .of_times hall _ _, rfl⟩
  | ok item =>
      have hplain := Observed.run_treat checker storage provenance item time caches read
      rcases htreat : ((checker.observed.surveyor storage.observed).treat provenance item time
        caches (Observed.build (checker.observed.surveyor storage.observed))).run read with
        ⟨⟨result, bench⟩, final⟩
      dsimp only at hplain
      rw [htreat] at hplain
      rcases Surveyor.works_pass _ _ item _ read result bench final htreat with
        ⟨work, hmoves, horder, _⟩
      rcases hmoves.events rfl with ⟨shown, hshown, hshow⟩
      have hfinal : final.events = (.time :: times ++ shown).reverse ++ s.events := by
        rw [List.reverse_append, List.append_assoc, <- hread]
        exact hshown
      have hhistory := CacheHistory.of_moves hall hmoves hshow horder
      dsimp only
      rw [View.run_bind_of_eq hplain, View.run_bind_of_eq htreat]
      cases result <;> exact ⟨rfl, _, _, hfinal, hhistory, rfl⟩

theorem traces_sweepItem (provenance : Provenance) (sweep : Sweep) (key : ItemKey) :
    Observed.Traces checker.engine sweep.caches (fun next known => next.caches = known)
      (checker.observed.sweepItem (checker.observed.surveyor storage.observed) provenance sweep key
        (Observed.build (checker.observed.surveyor storage.observed)))
      (checker.sweepItem (checker.surveyor storage) provenance sweep key) := by
  apply (traces_process checker storage provenance sweep.session sweep.caches key).bind
  intro out known hknown
  rcases out with ⟨result, session, caches⟩
  cases hknown
  cases result with
  | ok _ => exact .pure rfl
  | error fault =>
      have hpath : Observed.Traces checker.engine caches (fun _ known => caches = known)
          (checker.observed.failurePath session key) (checker.failurePath session key) :=
        .of_times ((Observed.checkers checker).failurePath session key) fun _ => rfl
      apply hpath.bind
      intro found known hknown
      exact .pure hknown

theorem traces_sweepAll (setup : Setup) (work : List ItemKey) (sweep : Sweep) :
    Observed.Traces checker.engine sweep.caches (fun out known => out.2.caches = known)
      (checker.observed.sweepAll (checker.observed.surveyor storage.observed) setup work sweep
        (Observed.build (checker.observed.surveyor storage.observed)))
      (checker.sweepAll (checker.surveyor storage) setup work sweep) := by
  induction work generalizing sweep with
  | nil => exact .pure rfl
  | cons key rest ih =>
      unfold sweepAll
      apply (traces_sweepItem checker storage setup.provenance sweep key).bind
      intro next known hknown
      cases hknown
      have hclose : Observed.Traces checker.engine next.caches
          (fun out known => out.2.caches = known) (checker.observed.closeBatch setup next)
          (checker.closeBatch setup next) :=
        .of_times ((Observed.checkers checker).closeBatch setup next)
          (caches_closeBatch checker.observed setup next)
      by_cases hfull : next.processed.toNat % max checker.engine.batchSize 1 = 0
      · have hfull' : next.processed.toNat % max checker.observed.engine.batchSize 1 = 0 := hfull
        rw [if_pos hfull, if_pos hfull']
        apply hclose.bind
        intro out known hknown
        rcases out with ⟨closed, later⟩
        cases hknown
        cases closed with
        | error fault => exact .pure rfl
        | ok _ => exact ih later
      · have hfull' : ¬ next.processed.toNat % max checker.observed.engine.batchSize 1 = 0 :=
          hfull
        rw [if_neg hfull, if_neg hfull']
        exact ih next

theorem run_prepare_observed (setup : Setup)
    (connect : String -> Attempt (StateM σ) (Storage (StateM σ))) (s : Observed σ) :
    exists result final times,
      (checker.prepare setup connect).run.run s.inner = (result, final) ∧
      (checker.observed.prepare setup (Observed.connect connect)).run.run s =
        (result.map Storage.observed, { events := times ++ s.events, inner := final }) ∧
      forall event, event ∈ times -> event = .time := by
  rcases (Observed.checkers checker).announce setup s with ⟨hrun, times, hevents, htimes⟩
  rcases hannounced : (checker.observed.announce setup).run.run s with ⟨announced, ready⟩
  rw [hannounced] at hrun hevents
  have hreverse : forall event, event ∈ times.reverse -> event = .time :=
    fun event hevent => htimes event (List.mem_reverse.mp hevent)
  unfold prepare
  cases announced with
  | error fault =>
      refine ⟨.error fault, ready.inner, times.reverse, ?_, ?_, hreverse⟩
      · exact Attempt.on_bind_of_error hrun
      · rw [<- hevents]
        exact Attempt.on_bind_of_error hannounced
  | ok _ =>
      rcases hconnected : (connect setup.token).run.run ready.inner with ⟨result, final⟩
      refine ⟨result, final, times.reverse, ?_, ?_, hreverse⟩
      · exact (Attempt.on_bind_of_ok hrun).trans hconnected
      · rw [<- hevents]
        refine (Attempt.on_bind_of_ok hannounced).trans ?_
        have hseen : (Observed.connect connect setup.token).run.run ready =
            (((connect setup.token).run.run ready.inner).1.map Storage.observed,
              { ready with inner := ((connect setup.token).run.run ready.inner).2 }) := rfl
        rw [hconnected] at hseen
        exact hseen

variable (connect : String -> Attempt (StateM σ) (Storage (StateM σ)))

theorem traces_prepare_bind {engine : EngineSettings} {before : Caches}
    {after : α -> Caches -> Prop} (setup : Setup)
    {f : Except Fault (Storage (StateM (Observed σ))) -> StateM (Observed σ) α}
    {g : Except Fault (Storage (StateM σ)) -> StateM σ α}
    (h : forall result : Except Fault (Storage (StateM σ)),
      Observed.Traces engine before after (f (result.map Storage.observed)) (g result)) :
    Observed.Traces engine before after
      ((checker.observed.prepare setup (Observed.connect connect)).run >>= f)
      ((checker.prepare setup connect).run >>= g) := by
  intro s
  rcases run_prepare_observed checker setup connect s with
    ⟨result, final, times, hprepared, hseen, htimes⟩
  have hhistory : CacheHistory engine before times.reverse before :=
    .of_times (fun event hevent => htimes event (List.mem_reverse.mp hevent)) _ _
  rw [View.run_bind_of_eq hprepared, View.run_bind_of_eq hseen]
  rcases h result { events := times ++ s.events, inner := final } with
    ⟨hrun, events, caches, hevents, hrest, hafter⟩
  refine ⟨hrun, times.reverse ++ events, caches, ?_, hhistory.trans hrest, hafter⟩
  rw [List.reverse_append, List.reverse_reverse, List.append_assoc]
  exact hevents

theorem traces_carryOut (setup : Setup) (externalIds : OrderedMap String (Option String)) :
    Observed.Traces checker.engine (Sweep.start externalIds).caches
      (fun out known => out.2 = known.externalIds)
      (checker.observed.carryOut setup externalIds (Observed.connect connect)
        (fun storage => Observed.build (checker.observed.surveyor storage)))
      (checker.carryOut setup externalIds connect) := by
  apply traces_prepare_bind checker connect setup
  intro result
  cases result with
  | error fault => exact .pure rfl
  | ok storage =>
      apply (traces_sweepAll checker storage setup setup.work (.start externalIds)).bind
      intro out known hknown
      rcases out with ⟨swept, sweep⟩
      cases hknown
      cases swept with
      | error fault => exact .pure rfl
      | ok _ =>
          have hfinish : Observed.Traces checker.engine sweep.caches
              (fun _ known => sweep.caches = known) (checker.observed.finish setup sweep).run
              (checker.finish setup sweep).run :=
            .of_times ((Observed.checkers checker).finish setup sweep) fun _ => rfl
          apply hfinish.bind
          intro outcome known hknown
          cases hknown
          exact .pure rfl

theorem traces_conduct (projectId userId : Int64)
    (externalIds : OrderedMap String (Option String)) :
    Observed.Traces checker.engine (Sweep.start externalIds).caches
      (fun out known => out.2 = known.externalIds)
      (checker.observed.conduct projectId userId externalIds (Observed.connect connect)
        (fun storage => Observed.build (checker.observed.surveyor storage)))
      (checker.conduct projectId userId externalIds connect) := by
  have hcheckers := Observed.checkers checker
  have hfail : forall (existing : Option Run) (fault : Fault) (caches : Caches),
      Observed.Traces checker.engine caches (fun out known => out.2 = known.externalIds)
        (do return (<- (checker.observed.fail projectId existing fault).run, caches.externalIds))
        (do return (<- (checker.fail projectId existing fault).run, caches.externalIds)) := by
    intro existing fault caches
    have hfailed : Observed.Traces checker.engine caches (fun _ known => caches = known)
        (checker.observed.fail projectId existing fault).run
        (checker.fail projectId existing fault).run :=
      .of_times (hcheckers.fail projectId existing fault) fun _ => rfl
    apply hfailed.bind
    intro out known hknown
    cases hknown
    exact .pure rfl
  have hfound : Observed.Traces checker.engine (Sweep.start externalIds).caches
      (fun _ known => (Sweep.start externalIds).caches = known)
      (Check.run? checker.observed.vault projectId).run (Check.run? checker.vault projectId).run :=
    .of_times (hcheckers.run? projectId) fun _ => rfl
  have hsetup : Observed.Traces checker.engine (Sweep.start externalIds).caches
      (fun _ known => (Sweep.start externalIds).caches = known)
      (checker.observed.readSetup projectId userId).run (checker.readSetup projectId userId).run :=
    .of_times (hcheckers.readSetup projectId userId) fun _ => rfl
  apply hfound.bind
  intro found known hknown
  cases hknown
  cases found with
  | error fault => exact .pure rfl
  | ok existing =>
      apply hsetup.bind
      intro setup known hknown
      cases hknown
      cases setup with
      | error fault => exact hfail existing fault (Sweep.start externalIds).caches
      | ok setup =>
          apply (traces_carryOut checker connect setup externalIds).bind
          intro out known hknown
          rcases out with ⟨result, learned⟩
          cases hknown
          cases result with
          | ok outcome => exact .pure rfl
          | error fault => exact hfail existing fault known

end Checker

/-!
## Checks that share what is known
-/

/-- The remote work of one check, in the order of its events.  Only systems of projects are
looked up.  The published copy of a system is indexed once at most, from where the external
project that is known of the system has it, and so is an owning system as a whole; nothing
but listings is needed for that.  Between two readings of the clock there is the work of one
pass, in which nothing follows a look-up without an answer. -/
structure DoneOnce (engine : EngineSettings) (known : OrderedMap String (Option String))
    (events : List CheckEvent) : Prop where
  projects : forall system answer,
    .externalId system answer ∈ events.flatMap CheckEvent.calls ->
      (engine.projectUuid? system).isSome = true
  published : ((events.filterMap CheckEvent.target?).filterMap IndexTarget.published?).Nodup
  owners : ((events.filterMap CheckEvent.target?).filterMap IndexTarget.owner?).Nodup
  linked : forall system id calls, .build (.published system id) calls ∈ events ->
    known.get? system = some (some id)
  listings : forall target calls, .build target calls ∈ events -> forall call, call ∈ calls ->
    exists path answer, call = .list (target.system engine) path answer
  turns : forall turn, turn <:+: events -> .time ∉ turn ->
    RemoteWork.InOrder Surveyor.plan (turn.filterMap CheckEvent.work?)

namespace CacheHistory

variable {engine : EngineSettings} {before after : Caches} {events : List CheckEvent}

theorem lookups (h : CacheHistory engine before events after) :
    before.externalIds.Learns after.externalIds
      ((events.flatMap CheckEvent.calls).filterMap Exchange.lookup?) := by
  rw [CheckEvent.filterMap_lookup? h.listings]
  exact h.externalIds

theorem projects (h : CacheHistory engine before events after) (system : String)
    (answer : Except StorageError (Option String))
    (hlookup : .externalId system answer ∈ events.flatMap CheckEvent.calls) :
    (engine.projectUuid? system).isSome = true := by
  rcases List.mem_flatMap.mp hlookup with ⟨event, hevent, hcall⟩
  cases event with
  | time => cases hcall
  | call exchange =>
      cases List.mem_singleton.mp hcall
      exact h.project system answer (List.mem_filterMap.mpr ⟨_, hevent, rfl⟩)
  | build target calls =>
      rcases h.listings target calls hevent _ hcall with ⟨path, other, hlist⟩
      cases hlist

theorem doneOnce (h : CacheHistory engine before events after)
    {known : OrderedMap String (Option String)}
    (hknown : forall system id, after.externalIds.get? system = some id ->
      known.get? system = some id) : DoneOnce engine known events where
  projects := h.projects
  published := by
    have hsame : (events.filterMap CheckEvent.target?).filterMap IndexTarget.published? =
        (events.filterMap CheckEvent.work?).filterMap RemoteWork.published? := by
      rw [List.filterMap_filterMap, List.filterMap_filterMap]
      apply List.filterMap_congr
      intro event _
      cases event <;> rfl
    rw [hsame]
    exact h.published.nodup
  owners := by
    have hsame : (events.filterMap CheckEvent.target?).filterMap IndexTarget.owner? =
        (events.filterMap CheckEvent.work?).filterMap RemoteWork.owner? := by
      rw [List.filterMap_filterMap, List.filterMap_filterMap]
      apply List.filterMap_congr
      intro event _
      cases event <;> rfl
    rw [hsame]
    exact h.owners.nodup
  linked := fun system id calls hbuild =>
    hknown system _ (h.linked system id (List.mem_filterMap.mpr ⟨_, hbuild, rfl⟩))
  listings := h.listings
  turns := h.turns

end CacheHistory

namespace CheckRequest

variable {known learned : OrderedMap String (Option String)}

theorem run_observe (request : CheckRequest σ) (known : OrderedMap String (Option String))
    (s : σ) :
    let out := (request.observe known).run s
    (request.checker.conduct request.projectId request.userId known request.connect).run s =
        ((out.1.1.1, out.1.2), out.2) ∧
      exists caches, CacheHistory request.checker.engine (Sweep.start known).caches out.1.1.2
        caches ∧ out.1.2 = caches.externalIds := by
  rcases Checker.traces_conduct request.checker request.connect request.projectId request.userId
    known { events := [], inner := s } with ⟨hrun, events, caches, hevents, hhistory, hafter⟩
  refine ⟨hrun, caches, ?_, hafter⟩
  rw [List.append_nil] at hevents
  show CacheHistory _ _ (List.reverse _) _
  rw [hevents, List.reverse_reverse]
  exact hhistory

/-- What checks one after the other learn of external projects, and the work of each. -/
theorem observeAll_learns {requests : List (CheckRequest σ)} {s after : σ}
    {outcomes : List (Except Fault CheckOutcome × List CheckEvent)}
    (hrun : (observeAll requests known).run s = ((outcomes, learned), after)) :
    (conductAll requests known).run s = ((outcomes.map Prod.fst, learned), after) ∧
      List.Forall₂ (fun request out => DoneOnce request.checker.engine learned out.2) requests
        outcomes ∧
      known.Learns learned
        (((outcomes.flatMap Prod.snd).flatMap CheckEvent.calls).filterMap Exchange.lookup?) := by
  induction requests generalizing known s outcomes with
  | nil =>
      cases hrun
      exact ⟨rfl, .nil, .refl _⟩
  | cons request rest ih =>
      rcases request.run_observe known s with ⟨hconduct, caches, hhistory, hcaches⟩
      rcases hobserve : (request.observe known).run s with
        ⟨⟨⟨result, events⟩, between⟩, middle⟩
      rw [hobserve] at hconduct hhistory hcaches
      rcases hothers : (observeAll rest between).run middle with ⟨⟨others, last⟩, final⟩
      unfold observeAll at hrun
      rw [View.run_bind_of_eq hobserve] at hrun
      dsimp only at hrun
      rw [View.run_bind_of_eq hothers] at hrun
      cases hrun
      rcases ih hothers with ⟨hplain, hdone, hlearns⟩
      have hfirst : known.Learns between
          ((events.flatMap CheckEvent.calls).filterMap Exchange.lookup?) := by
        have hlookups := hhistory.lookups
        rw [<- hcaches] at hlookups
        exact hlookups
      refine ⟨?_, .cons ?_ hdone, ?_⟩
      · unfold conductAll
        rw [View.run_bind_of_eq hconduct]
        dsimp only
        rw [View.run_bind_of_eq hplain]
        rfl
      · -- What this check came to know is still known after the last one.
        apply hhistory.doneOnce
        rw [<- hcaches]
        exact hlearns.kept
      · rw [List.flatMap_cons, List.flatMap_append, List.filterMap_append]
        exact hfirst.trans hlearns

end CheckRequest

theorem Exchange.lookup?_externalId (system : String)
    (answer : Except StorageError (Option String)) :
    exists answered, Exchange.lookup? (.externalId system answer) = some (system, answered) := by
  cases answer with
  | error failure => exact ⟨false, rfl⟩
  | ok id => exact ⟨true, rfl⟩

/-- Remote work is done once.  Checks that are run one after the other, sharing what is known
of external projects, go as they do with all their events in view.  Whatever remote storage
answers: no look-up of a system follows one that was answered, nothing that was known is
looked up, and each check does its work once. -/
theorem remote_work_once (requests : List (CheckRequest σ))
    (known : OrderedMap String (Option String)) (s : σ) :
    exists outcomes last after,
      (CheckRequest.observeAll requests known).run s = ((outcomes, last), after) ∧
      (CheckRequest.conductAll requests known).run s =
        ((outcomes.map Prod.fst, last), after) ∧
      List.Forall₂ (fun request out => DoneOnce request.checker.engine last out.2) requests
        outcomes ∧
      ((outcomes.flatMap Prod.snd).flatMap CheckEvent.calls).Pairwise
        (fun earlier later => forall system id answer,
          earlier = .externalId system (.ok id) -> later ≠ .externalId system answer) ∧
      forall system answer,
        .externalId system answer ∈ (outcomes.flatMap Prod.snd).flatMap CheckEvent.calls ->
          known.get? system = none := by
  rcases hrun : (CheckRequest.observeAll requests known).run s with ⟨⟨outcomes, last⟩, after⟩
  rcases CheckRequest.observeAll_learns hrun with ⟨hplain, hdone, hlearns⟩
  refine ⟨outcomes, last, after, rfl, hplain, hdone, ?_, ?_⟩
  · refine (List.pairwise_filterMap.mp hlearns.once).imp ?_
    intro earlier later hpair system id answer hearlier hlater
    rcases Exchange.lookup?_externalId system answer with ⟨answered, hanswered⟩
    rw [hearlier, hlater] at hpair
    exact hpair (system, true) rfl (system, answered) hanswered rfl rfl
  · intro system answer hlookup
    rcases Exchange.lookup?_externalId system answer with ⟨answered, hanswered⟩
    exact hlearns.fresh _ (List.mem_filterMap.mpr ⟨_, hlookup, hanswered⟩)

namespace Sample

def request : CheckRequest (MemoryWorld Unit) where
  checker := checker
  projectId := 1
  userId := 1
  connect := connect

def observed : List (List CheckEvent) :=
  ((CheckRequest.observeAll [request, request] .empty).run memory).1.1.map Prod.snd

end Sample

example : Sample.observed.map (fun events => events.filterMap CheckEvent.target?) =
    [[.published "project-a" "PRJ-1"], []] := by
  decide +kernel

example : Sample.observed.map (fun events =>
    (events.flatMap CheckEvent.calls).filterMap Exchange.lookup?) =
      [[("project-a", true), ("project-b", false)], [("project-b", false)]] := by
  decide +kernel

end Whereabouts
