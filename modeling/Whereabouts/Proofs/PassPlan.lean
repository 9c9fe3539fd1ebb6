import Whereabouts.Proofs.PassEffects
import Whereabouts.Proofs.RemoteWork

/-!
# The plan of a pass

Whatever a pass does to the caches and to remote storage it does by pieces of work, in a
fixed order and each at most once but for the look-up, which is made at two places.  A
look-up without an answer ends the pass.
-/

namespace Whereabouts

variable {ω α β : Type}

/-!
## Steps that work by moves
-/

/-- Pieces of work in the order of a plan, none of which comes after a look-up without an
answer. -/
structure RemoteWork.InOrder (plan : List RemoteWork.Kind) (work : List RemoteWork) :
    Prop where
  planned : (work.map RemoteWork.kind).Sublist plan
  answered : forall piece, piece ∈ work.dropLast -> piece.isRefused = false

namespace RemoteWork

theorem InOrder.nil (plan : List Kind) : InOrder plan [] where
  planned := List.nil_sublist plan
  answered := (fun _ h => nomatch h)

theorem InOrder.single (piece : RemoteWork) : InOrder [piece.kind] [piece] where
  planned := List.Sublist.refl _
  answered := (fun _ h => nomatch h)

theorem InOrder.mono {plan longer : List Kind} {work : List RemoteWork} (h : InOrder plan work)
    (hplan : plan.Sublist longer) : InOrder longer work where
  planned := h.planned.trans hplan
  answered := h.answered

theorem InOrder.append {plan more : List Kind} {early late : List RemoteWork}
    (h : InOrder plan early) (h' : InOrder more late)
    (hearly : forall piece, piece ∈ early -> piece.isRefused = false) :
    InOrder (plan ++ more) (early ++ late) where
  planned := by
    rw [List.map_append]
    exact h.planned.append h'.planned
  answered := by
    intro piece hpiece
    cases late with
    | nil =>
        rw [List.append_nil] at hpiece
        exact h.answered piece hpiece
    | cons first rest =>
        rw [List.dropLast_append_of_ne_nil (List.cons_ne_nil _ _)] at hpiece
        rcases List.mem_append.mp hpiece with hpiece | hpiece
        · exact hearly piece hpiece
        · exact h'.answered piece hpiece

end RemoteWork

/-- All that a step does to the caches and to remote storage is done by moves, whose work
follows a plan.  When it ends well every look-up had its answer. -/
def Step.Works (y : Step (StateM ω) α) (surveyor : Surveyor (StateM ω))
    (build : IndexTarget -> StateM ω FileIndex) (plan : List RemoteWork.Kind) : Prop :=
  forall bench world result after final, y.amid bench world = ((result, after), final) ->
    exists work, surveyor.Moves build (bench.caches, world) work (after.caches, final) ∧
      RemoteWork.InOrder plan work ∧
      forall a, result = .ok a -> forall piece, piece ∈ work -> piece.isRefused = false

namespace Step

variable {surveyor : Surveyor (StateM ω)} {build : IndexTarget -> StateM ω FileIndex}
  {plan early late : List RemoteWork.Kind} {bench after : Bench} {world final : ω}

theorem works_pure (plan : List RemoteWork.Kind) (a : α) :
    (pure a : Step (StateM ω) α).Works surveyor build plan := by
  intro bench world result after final hrun
  cases hrun
  exact ⟨[], .nil _, .nil plan, fun _ _ _ h => nomatch h⟩

theorem works_throw (plan : List RemoteWork.Kind) (failure : StorageError) :
    (throw failure : Step (StateM ω) α).Works surveyor build plan := by
  intro bench world result after final hrun
  cases hrun
  exact ⟨[], .nil _, .nil plan, fun _ _ _ h => nomatch h⟩

theorem works_setLocation (plan : List RemoteWork.Kind) (loc : Location) :
    (setLocation loc : Step (StateM ω) Unit).Works surveyor build plan := by
  intro bench world result after final hrun
  cases hrun
  exact ⟨[], .nil _, .nil plan, fun _ _ _ h => nomatch h⟩

theorem works_bind {x : Step (StateM ω) α} {f : α -> Step (StateM ω) β}
    (hx : x.Works surveyor build early) (hf : forall a, (f a).Works surveyor build late)
    (hplan : early ++ late = plan) : (x >>= f).Works surveyor build plan := by
  intro bench world result after final hrun
  subst hplan
  rcases hfirst : x.amid bench world with ⟨⟨found, middle⟩, between⟩
  rcases hx bench world found middle between hfirst with ⟨work, hmoves, horder, hanswered⟩
  cases found with
  | error failure =>
      rw [amid_bind_of_error hfirst] at hrun
      cases hrun
      exact ⟨work, hmoves, horder.mono (List.sublist_append_left _ _), fun _ h => nomatch h⟩
  | ok a =>
      rw [amid_bind_of_ok hfirst] at hrun
      rcases hf a middle between result after final hrun with
        ⟨more, hmoves', horder', hanswered'⟩
      refine ⟨work ++ more, hmoves.trans hmoves', horder.append horder' (hanswered a rfl), ?_⟩
      intro b hb piece hpiece
      rcases List.mem_append.mp hpiece with hpiece | hpiece
      · exact hanswered a rfl piece hpiece
      · exact hanswered' b hb piece hpiece

theorem works_location_bind {f : Location -> Step (StateM ω) α}
    (hf : forall loc, (f loc).Works surveyor build plan) :
    (location >>= f).Works surveyor build plan :=
  fun bench => hf bench.location bench

theorem works_place (plan : List RemoteWork.Kind) (loc : Location) (a : α) :
    (do setLocation loc; return a : Step (StateM ω) α).Works surveyor build plan :=
  works_bind (works_setLocation [] loc) (fun _ => works_pure plan a) rfl

theorem works_attempt {remote : Remote (StateM ω) α} (exchange : Except StorageError α -> Exchange)
    {kind : RemoteWork.Kind}
    (hkind : forall answer, (RemoteWork.call (exchange answer)).kind = kind ∧
      (RemoteWork.call (exchange answer)).isRefused = false)
    (hmove : forall caches world, surveyor.Move build (caches, world)
      (some (.call (exchange (remote.run.run world).1))) (caches, (remote.run.run world).2)) :
    (attempt remote).Works surveyor build [kind] := by
  intro bench world result after final hrun
  cases hrun
  refine ⟨_, (hmove bench.caches world).moves, ?_, ?_⟩
  · rw [<- (hkind (remote.run.run world).1).1]
    exact .single _
  · intro a _ done hdone
    rw [List.mem_singleton.mp hdone]
    exact (hkind _).2

end Step

/-!
## Passes
-/

namespace Surveyor

/-- The kinds of work in a pass, in their order. -/
def plan : List RemoteWork.Kind :=
  [.owner, .stat, .list, .lookup, .published, .lookup]

variable {surveyor : Surveyor (StateM ω)} {build : IndexTarget -> StateM ω FileIndex}
  {system : String} {bench after : Bench} {world final : ω}

theorem projectOf_cases {uuid : String} {result : Except StorageError (Option String)}
    (hproject : surveyor.engine.projectUuid? system = some uuid)
    (hrun : (surveyor.projectOf system).amid bench world = ((result, after), final)) :
    exists work, surveyor.Moves build (bench.caches, world) work (after.caches, final) ∧
      RemoteWork.InOrder [.lookup] work ∧ after.location = bench.location ∧
      after.caches.published = bench.caches.published ∧
      forall id, result = .ok id -> after.caches.externalIds.get? system = some id ∧
        forall piece, piece ∈ work -> piece.isRefused = false := by
  have hsome : (surveyor.engine.projectUuid? system).isSome = true := by
    rw [hproject]
    rfl
  unfold projectOf at hrun
  rw [hproject] at hrun
  dsimp only [Step.recallExternalId] at hrun
  cases hknown : bench.caches.externalIds.get? system with
  | some id =>
      rw [Step.amid_remembered_of_some hknown] at hrun
      cases hrun
      refine ⟨[], .nil _, .nil _, rfl, rfl, ?_⟩
      intro other hother
      cases hother
      exact ⟨hknown, fun _ h => nomatch h⟩
  | none =>
      rcases hcall : (surveyor.storage.externalId system).run.run world with ⟨answer, between⟩
      have hmake : (Step.call (surveyor.storage.externalId system)).amid bench world =
          ((answer, bench), between) := View.run_bind_of_eq hcall
      cases answer with
      | error failure =>
          rw [Step.amid_remembered_of_error hknown hmake] at hrun
          cases hrun
          exact ⟨_, (Move.refused hsome hknown hcall).moves,
            .single (.call (.externalId system (.error failure))), rfl, rfl,
            fun _ h => nomatch h⟩
      | ok id =>
          rw [Step.amid_remembered_of_ok hknown hmake] at hrun
          cases hrun
          refine ⟨_, (Move.answered hsome hknown hcall).moves,
            .single (.call (.externalId system (.ok id))), rfl, rfl, ?_⟩
          intro other hother
          cases hother
          refine ⟨OrderedMap.get?_insert_self .., ?_⟩
          intro piece hpiece
          rw [List.mem_singleton.mp hpiece]
          rfl

theorem works_projectOf (surveyor : Surveyor (StateM ω))
    (build : IndexTarget -> StateM ω FileIndex) (system : String) :
    (surveyor.projectOf system).Works surveyor build [.lookup] := by
  cases hproject : surveyor.engine.projectUuid? system with
  | none =>
      unfold projectOf
      rw [hproject]
      exact Step.works_pure _ none
  | some uuid =>
      intro bench world result after final hrun
      rcases projectOf_cases hproject hrun with ⟨work, hmoves, horder, _, _, hok⟩
      exact ⟨work, hmoves, horder, fun id hid => (hok id hid).2⟩

/-- How the published copy of a project's own system is come by: the look-up fails or
tells of no project, or what it tells of is indexed. -/
theorem publishedCopy_cases {uuid : String} {result : Except StorageError (Option FileIndex)}
    (hproject : surveyor.engine.projectUuid? system = some uuid)
    (hrun : (surveyor.publishedCopy system build).amid bench world =
      ((result, after), final)) :
    exists work between,
      surveyor.Moves build (bench.caches, world) work (after.caches, between) ∧
      RemoteWork.InOrder [.lookup] work ∧ after.location = bench.location ∧
      after.caches.published = bench.caches.published ∧
      ((exists failure, result = .error failure ∧ final = between) ∨
        (forall piece, piece ∈ work -> piece.isRefused = false) ∧
          ((result = .ok none ∧ final = between) ∨
            exists id index, result = .ok (some index) ∧
              after.caches.externalIds.get? system = some (some id) ∧
              (build (.published system id)).run between = (index, final))) := by
  unfold publishedCopy at hrun
  rw [hproject] at hrun
  dsimp only at hrun
  rcases hlink : (surveyor.projectOf system).amid bench world with ⟨⟨found, middle⟩, between⟩
  rcases projectOf_cases hproject hlink with
    ⟨work, hmoves, horder, hlocation, hpublished, hok⟩
  cases found with
  | error failure =>
      rw [Step.amid_bind_of_error hlink] at hrun
      cases hrun
      exact ⟨work, _, hmoves, horder, hlocation, hpublished, Or.inl ⟨failure, rfl, rfl⟩⟩
  | ok project =>
      rcases hok project rfl with ⟨hlinked, hanswered⟩
      rw [Step.amid_bind_of_ok hlink] at hrun
      cases project with
      | none =>
          cases hrun
          exact ⟨work, _, hmoves, horder, hlocation, hpublished,
            Or.inr ⟨hanswered, Or.inl ⟨rfl, rfl⟩⟩⟩
      | some id =>
          dsimp only at hrun
          rw [Step.amid_bind_of_ok (Step.amid_effect _ middle between)] at hrun
          cases hrun
          exact ⟨work, between, hmoves, horder, hlocation, hpublished,
            Or.inr ⟨hanswered, Or.inr ⟨id, _, rfl, hlinked, rfl⟩⟩⟩

theorem recallPublished_of_project {uuid : String}
    {result : Except StorageError (Option FileIndex)}
    (hproject : surveyor.engine.projectUuid? system = some uuid)
    (hknown : bench.caches.published.get? system = none)
    (hrun : (Step.recallPublished system (surveyor.publishedCopy system build)).amid bench world =
      ((result, after), final)) :
    exists work, surveyor.Moves build (bench.caches, world) work (after.caches, final) ∧
      RemoteWork.InOrder [.lookup, .published] work ∧ after.location = bench.location ∧
      forall copy, result = .ok copy -> after.caches.published.get? system = some copy ∧
        forall piece, piece ∈ work -> piece.isRefused = false := by
  unfold Step.recallPublished at hrun
  rcases hmake : (surveyor.publishedCopy system build).amid bench world with
    ⟨⟨made, middle⟩, last⟩
  rcases publishedCopy_cases hproject hmake with
    ⟨work, between, hmoves, horder, hlocation, hpublished, hcases⟩
  have hunknown : middle.caches.published.get? system = none := by
    rw [hpublished]
    exact hknown
  have hplanned : RemoteWork.InOrder [.lookup, .published] work :=
    horder.mono (List.sublist_append_left _ [RemoteWork.Kind.published])
  rcases hcases with ⟨failure, rfl, rfl⟩ |
    ⟨hanswered, ⟨rfl, rfl⟩ | ⟨id, index, rfl, hlinked, hbuild⟩⟩
  · rw [Step.amid_remembered_of_error hknown hmake] at hrun
    cases hrun
    exact ⟨work, hmoves, hplanned, hlocation, fun _ h => nomatch h⟩
  · rw [Step.amid_remembered_of_ok hknown hmake] at hrun
    cases hrun
    have hall := hmoves.trans (Move.uncopied hunknown).moves
    rw [Option.toList_none, List.append_nil] at hall
    refine ⟨work, hall, hplanned, hlocation, ?_⟩
    intro other hother
    cases hother
    exact ⟨OrderedMap.get?_insert_self .., hanswered⟩
  · rw [Step.amid_remembered_of_ok hknown hmake] at hrun
    cases hrun
    have hsome : (surveyor.engine.projectUuid? system).isSome = true := by
      rw [hproject]
      rfl
    have hcopied := (Move.copied hsome hunknown hlinked hbuild).moves
    refine ⟨_, hmoves.trans hcopied,
      horder.append (.single (.build (.published system id))) hanswered, hlocation, ?_⟩
    intro other hother
    cases hother
    constructor
    · exact OrderedMap.get?_insert_self ..
    · intro piece hpiece
      rcases List.mem_append.mp hpiece with hpiece | hpiece
      · exact hanswered piece hpiece
      · rw [List.mem_singleton.mp hpiece]
        rfl

theorem recallPublished_cases {result : Except StorageError (Option FileIndex)}
    (hrun : (Step.recallPublished system (surveyor.publishedCopy system build)).amid bench world =
      ((result, after), final)) :
    exists work, surveyor.Moves build (bench.caches, world) work (after.caches, final) ∧
      RemoteWork.InOrder [.lookup, .published] work ∧ after.location = bench.location ∧
      forall copy, result = .ok copy -> after.caches.published.get? system = some copy ∧
        forall piece, piece ∈ work -> piece.isRefused = false := by
  cases hknown : bench.caches.published.get? system with
  | some copy =>
      unfold Step.recallPublished at hrun
      rw [Step.amid_remembered_of_some hknown] at hrun
      cases hrun
      refine ⟨[], .nil _, .nil _, rfl, ?_⟩
      intro other hother
      cases hother
      exact ⟨hknown, fun _ h => nomatch h⟩
  | none =>
      cases hproject : surveyor.engine.projectUuid? system with
      | none =>
          have hmake : (surveyor.publishedCopy system build).amid bench world =
              ((.ok none, bench), world) := by
            unfold publishedCopy
            rw [hproject]
            rfl
          unfold Step.recallPublished at hrun
          rw [Step.amid_remembered_of_ok hknown hmake] at hrun
          cases hrun
          refine ⟨_, (Move.uncopied hknown).moves, .nil _, rfl, ?_⟩
          intro other hother
          cases hother
          exact ⟨OrderedMap.get?_insert_self .., fun _ h => nomatch h⟩
      | some uuid => exact recallPublished_of_project hproject hknown hrun

theorem works_recallOwner (surveyor : Surveyor (StateM ω))
    (build : IndexTarget -> StateM ω FileIndex) (owner : String) :
    (Step.recallOwner owner (.effect (build (.owner owner)))).Works surveyor build [.owner] := by
  intro bench world result after final hrun
  unfold Step.recallOwner at hrun
  cases hknown : bench.caches.owners.get? owner with
  | some index =>
      rw [Step.amid_remembered_of_some hknown] at hrun
      cases hrun
      exact ⟨[], .nil _, .nil _, fun _ _ _ h => nomatch h⟩
  | none =>
      rw [Step.amid_remembered_of_ok hknown (Step.amid_effect _ _ _)] at hrun
      cases hrun
      refine ⟨_, (Move.surveyed hknown rfl).moves, .single (.build (.owner owner)), ?_⟩
      intro _ _ piece hpiece
      rw [List.mem_singleton.mp hpiece]
      rfl

variable {provenance : Provenance}

theorem works_confirmSource (surveyor : Surveyor (StateM ω))
    (build : IndexTarget -> StateM ω FileIndex) (loc : Location) (owner found : String) :
    (surveyor.confirmSource loc owner found).Works surveyor build [.stat] := by
  have hstat : (Step.attempt (surveyor.storage.stat owner (RemotePath.absolute found))).Works
      surveyor build [.stat] :=
    Step.works_attempt (.stat owner _) (fun _ => ⟨rfl, rfl⟩) fun _ _ => .described rfl
  refine Step.works_bind hstat ?_ (List.append_nil _)
  intro answer
  cases answer with
  | ok entry => exact Step.works_place [] _ true
  | error failure =>
      cases failure with
      | notListable system path => exact Step.works_pure [] false
      | _ => exact Step.works_throw [] _

theorem works_recoverSource (surveyor : Surveyor (StateM ω))
    (build : IndexTarget -> StateM ω FileIndex) (asset : Asset) :
    (surveyor.recoverSource provenance asset build).Works surveyor build [.owner, .stat] := by
  apply Step.works_location_bind
  intro start
  cases missingSource? provenance asset start with
  | none => exact Step.works_pure _ false
  | some source =>
      rcases source with ⟨name, owner⟩
      refine Step.works_bind (works_recallOwner surveyor build owner) ?_ rfl
      intro index
      cases index.resolve? name with
      | none => exact Step.works_pure _ false
      | some found => exact works_confirmSource surveyor build start owner found

theorem works_recoverSystem (surveyor : Surveyor (StateM ω))
    (build : IndexTarget -> StateM ω FileIndex) (provenance : Provenance) :
    (surveyor.recoverSystem provenance).Works surveyor build [.list] := by
  apply Step.works_location_bind
  intro start
  cases start.originSystem with
  | some system => exact Step.works_pure _ false
  | none =>
      cases start.originPath with
      | none => exact Step.works_pure _ false
      | some path =>
          cases provenance.project.owningSystem? with
          | none => exact Step.works_pure _ false
          | some owner =>
              have hlist : (Step.attempt (surveyor.storage.list owner path)).Works
                  surveyor build [.list] :=
                Step.works_attempt (.list owner path) (fun _ => ⟨rfl, rfl⟩) fun _ _ => .listed rfl
              refine Step.works_bind hlist ?_ (List.append_nil _)
              intro answer
              cases answer with
              | ok listing =>
                  cases listing with
                  | nil => exact Step.works_pure [] false
                  | cons entry rest => exact Step.works_place [] _ true
              | error failure =>
                  cases failure with
                  | notListable system path => exact Step.works_pure [] false
                  | _ => exact Step.works_throw [] _

theorem works_fillCurrent (surveyor : Surveyor (StateM ω))
    (build : IndexTarget -> StateM ω FileIndex) :
    (fillCurrent : Step (StateM ω) Bool).Works surveyor build [] := by
  apply Step.works_location_bind
  intro start
  cases completedCurrent? start with
  | none => exact Step.works_pure _ false
  | some completed => exact Step.works_place [] completed true

theorem works_repair (surveyor : Surveyor (StateM ω))
    (build : IndexTarget -> StateM ω FileIndex) (asset : Asset) :
    (surveyor.repair provenance asset build).Works surveyor build [.owner, .stat, .list] := by
  refine Step.works_bind (works_recoverSource surveyor build asset) ?_ rfl
  intro _
  refine Step.works_bind (works_recoverSystem surveyor build provenance) ?_ (List.append_nil _)
  intro _
  exact Step.works_bind (works_fillCurrent surveyor build) (fun _ => Step.works_pure [] _) rfl

theorem works_judge (surveyor : Surveyor (StateM ω))
    (build : IndexTarget -> StateM ω FileIndex) :
    (surveyor.judge build).Works surveyor build [.lookup, .published] := by
  apply Step.works_location_bind
  intro start
  cases start.currentSystem with
  | none => exact Step.works_pure _ _
  | some system =>
      show Step.Works (if surveyor.engine.isPublicSystem system then _ else _) surveyor _ _
      split
      · exact Step.works_place _ _ _
      · have hrecall : (Step.recallPublished system
            (surveyor.publishedCopy system build)).Works surveyor build [.lookup, .published] := by
          intro bench world result after final hrun
          rcases recallPublished_cases hrun with ⟨work, hmoves, horder, _, hok⟩
          exact ⟨work, hmoves, horder, fun copy hcopy => (hok copy hcopy).2⟩
        refine Step.works_bind hrecall ?_ (List.append_nil _)
        intro copy
        cases copy.bind fun index => start.currentPath.bind index.resolve? with
        | none => exact Step.works_place [] _ _
        | some path => exact Step.works_place [] _ _

theorem works_assignProject (surveyor : Surveyor (StateM ω))
    (build : IndexTarget -> StateM ω FileIndex) :
    surveyor.assignProject.Works surveyor build [.lookup] := by
  apply Step.works_location_bind
  intro start
  cases surveyor.publishedProject? start with
  | some id => exact Step.works_setLocation _ _
  | none =>
      cases surveyor.owningSystem? start with
      | none => exact Step.works_pure _ ()
      | some system =>
          refine Step.works_bind (works_projectOf surveyor build system) ?_ (List.append_nil _)
          intro project
          cases project with
          | none => exact Step.works_pure [] ()
          | some id => exact Step.works_setLocation [] _

theorem works_reconcile (surveyor : Surveyor (StateM ω))
    (build : IndexTarget -> StateM ω FileIndex) :
    (surveyor.reconcile build).Works surveyor build [.lookup, .published, .lookup] := by
  refine Step.works_bind (works_judge surveyor build) ?_ rfl
  intro verdict
  exact Step.works_bind (works_assignProject surveyor build) (fun _ => Step.works_pure [] _)
    (List.append_nil _)

/-- All that a pass does it does by pieces of work, and a look-up without an answer is its
last one. -/
theorem works_pass (surveyor : Surveyor (StateM ω))
    (build : IndexTarget -> StateM ω FileIndex) (item : Tracked) :
    (surveyor.pass provenance item build).Works surveyor build plan := by
  cases item with
  | asset asset =>
      exact Step.works_bind (works_repair surveyor build asset)
        (fun _ => works_reconcile surveyor build) rfl
  | tileServer server =>
      intro bench world result after final hrun
      rcases works_reconcile surveyor build bench world result after final hrun with
        ⟨work, hmoves, horder, hok⟩
      exact ⟨work, hmoves, horder.mono
        (List.sublist_append_right [RemoteWork.Kind.owner, .stat, .list] _), hok⟩

end Surveyor
end Whereabouts
