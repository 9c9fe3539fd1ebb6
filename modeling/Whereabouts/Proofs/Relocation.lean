import Mathlib.Data.Set.Finite.Basic
import Mathlib.Logic.Relation
import Whereabouts.Proofs.Settling
import Whereabouts.Settings.Validity

/-!
# Relocated items

A verdict that moves an item to the published system also calls it public.  The
verdict lasts when the published system is one of the public systems.  Settings are
accepted where it is none of them, and there the next verdict takes it back.
-/

namespace Whereabouts

variable {σ α β : Type}

/-- An item that the public reaches at a place. -/
structure Location.PublicAt (loc : Location) (system path : String) : Prop where
  verdict : loc.isPublic = some true
  system : loc.currentSystem = some system
  path : loc.currentPath = some path

/-!
## What is done with an item
-/

/-- A step that succeeds takes an item from one location to another, with some caches
and wherever remote storage stands. -/
def Step.Leads (y : Step (StateM σ) α) (rules : Surveyor Id) (loc next : Location) (a : α) :
    Prop :=
  exists caches after s t, Coherent rules caches ∧
    (y.run.run { location := loc, caches }).run s =
      ((.ok a, { location := next, caches := after }), t)

/-- One thing that is done with an item in a check. -/
inductive ItemAction (surveyor : Surveyor (StateM σ)) (answers : Storage Id)
    (loc next : Location) : Prop
  | stamped (time : Instant) (h : next = loc.touched time)
  | repaired (provenance : Provenance) (asset : Asset) (repairs : Repairs)
      (h : (surveyor.repair provenance asset).Leads (surveyor.over answers) loc next repairs)
  | judged (verdict : Verdict)
      (h : surveyor.judge.Leads (surveyor.over answers) loc next verdict)
  | assigned (h : surveyor.assignProject.Leads (surveyor.over answers) loc next ())

/-- Rules with which an item that a verdict has moved stays public where it is, whatever
is done with it in this check and later ones, as long as remote storage gives the same
answers. -/
def EngineSettings.Lasting (engine : EngineSettings) : Prop :=
  forall (σ : Type) (surveyor : Surveyor (StateM σ)) (answers : Storage Id),
    surveyor.engine = engine -> surveyor.storage.Follows answers ->
    forall loc next system path,
      surveyor.judge.Leads (surveyor.over answers) loc next (.relocated system path) ->
      forall later, Relation.ReflTransGen (ItemAction surveyor answers) next later ->
        later.PublicAt system path

variable {surveyor : Surveyor (StateM σ)} {rules : Surveyor Id} {answers : Storage Id}
  {loc next : Location} {system path : String}

theorem Step.Leads.alone {x : Step (StateM σ) α} {y : Step Id α} {a : α}
    (h : x.Leads rules loc next a) (hsteps : (Lockstep.fixed σ).Steps x y)
    (hy : Transparent rules y) : y.alone loc = (.ok a, next) := by
  rcases h with ⟨caches, after, s, t, hcaches, hrun⟩
  rcases hy loc caches hcaches with ⟨final, hon, _⟩
  have hsame := hsteps { location := loc, caches } s
  rw [hrun] at hsame
  have heq := hsame.trans hon
  rcases halone : y.alone loc with ⟨result, place⟩
  rw [halone] at heq
  cases heq
  rfl

theorem Step.Leads.of_alone {x : Step (StateM σ) α} {y : Step Id α} {a : α}
    (h : y.alone loc = (.ok a, next)) (hsteps : (Lockstep.fixed σ).Steps x y)
    (hy : Transparent rules y) (s : σ) : x.Leads rules loc next a := by
  rcases hy loc .empty (Coherent.empty rules) with ⟨after, hon, _⟩
  have hsame := (hsteps { location := loc, caches := .empty } s).trans hon
  rw [h] at hsame
  rcases hrun : (x.run.run { location := loc, caches := .empty }).run s with ⟨out, t⟩
  rw [hrun] at hsame
  change out = _ at hsame
  rw [hsame] at hrun
  exact ⟨.empty, after, s, t, Coherent.empty rules, hrun⟩

theorem Surveyor.judge_leads_iff (hfollows : surveyor.storage.Follows answers)
    {verdict : Verdict} (s : σ) :
    surveyor.judge.Leads (surveyor.over answers) loc next verdict <->
      (surveyor.over answers).judged loc = .ok (verdict, next) := by
  have hsteps := Lockstep.steps_judge hfollows
  have htransparent := transparent_judge (surveyor.over answers)
  constructor
  · intro h
    have halone := h.alone hsteps htransparent
    rw [alone_judge] at halone
    cases hjudged : (surveyor.over answers).judged loc with
    | error failure =>
        rw [hjudged] at halone
        cases halone
    | ok found =>
        rw [hjudged] at halone
        cases halone
        rfl
  · intro h
    refine Step.Leads.of_alone ?_ hsteps htransparent s
    rw [alone_judge, h]

/-!
## Places that last
-/

theorem judged_relocated (h : rules.judged loc = .ok (.relocated system path, next)) :
    system = rules.engine.publishedSystem ∧ next.PublicAt system path := by
  unfold Surveyor.judged at h
  cases hcurrent : loc.currentSystem with
  | none =>
      rw [hcurrent] at h
      cases h
  | some current =>
      rw [hcurrent] at h
      cases hpublic : rules.engine.isPublicSystem current with
      | true =>
          simp only [hpublic, if_true] at h
          cases h
      | false =>
          simp only [hpublic, Bool.false_eq_true, if_false] at h
          cases hcopied : rules.copied current with
          | error failure =>
              rw [hcopied] at h
              cases h
          | ok index =>
              rw [hcopied] at h
              cases hfound : index.bind fun index => loc.currentPath.bind index.resolve? with
              | none =>
                  simp only [hfound] at h
                  cases h
              | some found =>
                  simp only [hfound] at h
                  cases h
                  exact ⟨rfl, rfl, rfl, rfl⟩

theorem judged_of_publicAt (hpublic : rules.engine.isPublicSystem system = true)
    (h : loc.PublicAt system path) : rules.judged loc = .ok (.alreadyPublic, loc) := by
  rcases loc with ⟨originSystem, originPath, currentSystem, currentPath, id, verdict, checked⟩
  rcases h with ⟨hverdict, hsystem, hpath⟩
  cases hverdict
  cases hsystem
  simp only [Surveyor.judged, hpublic, if_true, Location.withPublic]

theorem Location.PublicAt.withOrigin? (h : loc.PublicAt system path)
    (place : Option (String × String)) : (loc.withOrigin? place).PublicAt system path := by
  cases place with
  | none => exact h
  | some place => exact ⟨h.verdict, h.system, h.path⟩

theorem Location.PublicAt.withExternalId? (h : loc.PublicAt system path) (id : Option String) :
    (loc.withExternalId? id).PublicAt system path := by
  cases id with
  | none => exact h
  | some id => exact ⟨h.verdict, h.system, h.path⟩

theorem Location.PublicAt.filled (h : loc.PublicAt system path) :
    (Surveyor.filled loc).PublicAt system path := by
  have hcompletion : Surveyor.completion? loc = none := by
    unfold Surveyor.completion?
    rw [h.system, h.path]
  rw [filled_eq, hcompletion]
  exact h

/-- Nothing that is done with an item at a public place takes it away from there. -/
theorem ItemAction.publicAt (hfollows : surveyor.storage.Follows answers)
    (hpublic : surveyor.engine.isPublicSystem system = true)
    (h : ItemAction surveyor answers loc next) (hplace : loc.PublicAt system path) :
    next.PublicAt system path := by
  cases h with
  | stamped time h =>
      rw [h]
      exact ⟨hplace.verdict, hplace.system, hplace.path⟩
  | repaired provenance asset repairs h =>
      have halone := h.alone (Lockstep.steps_repair hfollows provenance asset)
        (transparent_repair _ provenance asset)
      have hmove := Step.move_of_ok halone
      rw [move_repair] at hmove
      rcases of_repaired_eq_ok hmove with ⟨source, place, _, _, hnext⟩
      rw [hnext]
      exact ((hplace.withOrigin? source).withOrigin? place).filled
  | judged verdict h =>
      rcases id h with ⟨_, _, s, _⟩
      have hjudged := (Surveyor.judge_leads_iff hfollows s).mp h
      rw [judged_of_publicAt hpublic hplace] at hjudged
      cases hjudged
      exact hplace
  | assigned h =>
      have halone := h.alone (Lockstep.steps_assignProject hfollows)
        (transparent_assignProject _)
      have hmove := Step.move_of_ok halone
      rw [move_assignProject] at hmove
      cases hproject : (surveyor.over answers).foundProject loc with
      | error failure =>
          rw [hproject] at hmove
          cases hmove
      | ok id =>
          rw [hproject] at hmove
          cases hmove
          exact hplace.withExternalId? id

theorem EngineSettings.lasting_of_public {engine : EngineSettings}
    (hpublic : engine.isPublicSystem engine.publishedSystem = true) : engine.Lasting := by
  intro σ surveyor answers hengine hfollows loc next system path h later hlater
  rcases id h with ⟨_, _, s, _⟩
  rcases judged_relocated ((Surveyor.judge_leads_iff hfollows s).mp h) with ⟨hsystem, hplace⟩
  have hpublic' : surveyor.engine.isPublicSystem system = true := by
    rw [hsystem, Surveyor.over_engine, hengine]
    exact hpublic
  induction hlater with
  | refl => exact hplace
  | tail _ haction ih => exact haction.publicAt hfollows hpublic' ih

/-!
## Verdicts that are taken back
-/

/-- A storage with one file in every directory, where every system but one is linked to
a project. -/
def Storage.withOneFile (unlinked : String) : Storage Id where
  list := fun _ _ => .ok [{ name := "a", path := "a", kind := .file, size := none }]
  stat := fun system path => .error (.notListable system path)
  externalId := fun system => .ok (if system = unlinked then none else some "PRJ-1")

theorem EngineSettings.exists_unnamed_system (engine : EngineSettings) :
    exists system uuid, engine.projectUuid? system = some uuid ∧
      engine.isPublicSystem system = false ∧ system ≠ engine.publishedSystem := by
  let name : Nat -> String := fun n =>
    String.ofList (engine.projectSystemStart.toList ++ List.replicate (n + 1) 'x')
  have hinjective : Function.Injective name := by
    intro m n h
    have hlists := List.append_cancel_left (String.ofList_injective h)
    exact Nat.succ.inj (List.replicate_left_injective 'x' hlists)
  -- Infinitely many systems are project systems, and the rules name finitely many.
  rcases (Set.infinite_range_of_injective hinjective).exists_notMem_finite
    (List.finite_toSet (engine.publishedSystem :: engine.publicSystems)) with
    ⟨system, ⟨n, hname⟩, hunnamed⟩
  have huuid : Text.after? engine.projectSystemStart.toList system.toList =
      some (List.replicate (n + 1) 'x') := by
    rw [Text.after?_eq_some_iff, ← hname, String.toList_ofList]
  refine ⟨system, String.ofList (List.replicate (n + 1) 'x'), ?_, ?_, ?_⟩
  · unfold projectUuid?
    rw [huuid]
    rfl
  · rw [isPublicSystem, List.contains_eq_mem, decide_eq_false_iff_not]
    exact fun hmem => hunnamed (List.mem_cons_of_mem _ hmem)
  · intro hpublished
    exact hunnamed (List.mem_cons.mpr (Or.inl hpublished))

/-- Rules that do not call the published system public move an item there, and then
find that it is not public. -/
theorem exists_withdrawn {engine : EngineSettings}
    (hpublic : engine.isPublicSystem engine.publishedSystem = false) :
    exists (surveyor : Surveyor Id) (loc next : Location) (path : String),
      surveyor.engine = engine ∧
      surveyor.judged loc = .ok (.relocated engine.publishedSystem path, next) ∧
      surveyor.judged next = .ok (.notPublic, next.withPublic false) := by
  rcases engine.exists_unnamed_system with ⟨system, uuid, huuid, hunnamed, hother⟩
  let surveyor : Surveyor Id :=
    { storage := .withOneFile engine.publishedSystem, engine, depth := 0 }
  let loc : Location :=
    { Location.unknown with currentSystem := some system, currentPath := some "a" }
  have hengine : surveyor.engine = engine := rfl
  have hlinked : surveyor.linked system = .ok (some "PRJ-1") := by
    unfold Surveyor.linked
    rw [hengine, huuid]
    exact congrArg Except.ok (if_neg hother)
  have hunlinked : surveyor.linked engine.publishedSystem = .ok none := by
    unfold Surveyor.linked
    rw [hengine]
    cases engine.projectUuid? engine.publishedSystem with
    | none => rfl
    | some uuid => exact congrArg Except.ok (if_pos rfl)
  have hresolved : forall root,
      (surveyor.index engine.publishedSystem root).run.resolve? "a" = some "a" :=
    fun _ => rfl
  refine ⟨surveyor, loc, (loc.withCurrent engine.publishedSystem "/a").withPublic true, "/a",
    rfl, ?_, ?_⟩
  · have hcopied : surveyor.copied system = .ok (some
        (surveyor.index engine.publishedSystem (engine.publishedRoot "PRJ-1")).run) := by
      unfold Surveyor.copied
      rw [hlinked]
    simp only [Surveyor.judged, loc, hengine, hunnamed, Bool.false_eq_true, if_false, hcopied,
      Option.bind_some, hresolved]
    rfl
  · have hcopied : surveyor.copied engine.publishedSystem = .ok none := by
      unfold Surveyor.copied
      rw [hunlinked]
    simp only [Surveyor.judged, Location.withCurrent, Location.withPublic, hengine, hpublic,
      Bool.false_eq_true, if_false, hcopied, Option.bind_none]

theorem EngineSettings.public_of_lasting {engine : EngineSettings} (h : engine.Lasting) :
    engine.isPublicSystem engine.publishedSystem = true := by
  cases hpublic : engine.isPublicSystem engine.publishedSystem with
  | true => rfl
  | false =>
      rcases exists_withdrawn hpublic with
        ⟨rules, loc, next, path, hengine, hrelocated, hwithdrawn⟩
      let surveyor : Surveyor (StateM Unit) := rules.over (Storage.answering rules.storage)
      have hfollows : surveyor.storage.Follows rules.storage :=
        Storage.answering_follows rules.storage
      have hleads := (Surveyor.judge_leads_iff hfollows ()).mpr hrelocated
      have hleads' := (Surveyor.judge_leads_iff hfollows ()).mpr hwithdrawn
      have hlast := h Unit surveyor rules.storage hengine hfollows loc next _ path hleads _
        (.single (.judged .notPublic hleads'))
      cases hlast.verdict

/-- Exactly the rules that call the published system public let a verdict that moved an
item last. -/
theorem EngineSettings.lasting_iff (engine : EngineSettings) :
    engine.Lasting <-> engine.isPublicSystem engine.publishedSystem = true :=
  ⟨public_of_lasting, lasting_of_public⟩

/-- Settings that are in order and do not call the published system public. -/
def Sample.narrow : Settings where
  storage := .standard
  engine := { EngineSettings.standard with publicSystems := ["designsafe.storage.community"] }

def Sample.narrowSurveyor : Surveyor Id where
  storage := Sample.answers
  engine := Sample.narrow.engine
  depth := 4

/-- The published copy of a file is found, and the next verdict takes that back. -/
theorem narrow_withdraws :
    Sample.narrow.problem? = none ∧
    (exists moved,
      Sample.narrowSurveyor.judge.alone (Sample.placed "project-a" "/b.jpg") =
        (.ok (.relocated "designsafe.storage.published" "/published-data/PRJ-1/b.jpg"), moved) ∧
      moved.isPublic = some true ∧
      Sample.narrowSurveyor.judge.alone moved = (.ok .notPublic, moved.withPublic false)) ∧
    ¬ Sample.narrow.engine.Lasting := by
  have haccepted : Sample.narrow.problem? = none := by decide
  have hpublic : Sample.narrow.engine.isPublicSystem Sample.narrow.engine.publishedSystem =
      false := by decide
  refine ⟨haccepted, ⟨_, rfl, rfl, rfl⟩, ?_⟩
  intro hlasting
  rw [EngineSettings.public_of_lasting hlasting] at hpublic
  cases hpublic

end Whereabouts
