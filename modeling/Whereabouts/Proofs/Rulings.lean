import Whereabouts.Proofs.Walks
import Whereabouts.Proofs.JustifiedChanges

/-!
# Rulings

What the rules say about a location, told by nothing but the answers of remote storage:
there are no caches in it, no indices, and no number of levels.  From whatever caches
checks have come to, the verdict is the one ruling that there is.
-/

namespace Whereabouts

variable {σ ω α : Type}

/-!
## What a ruling looks at
-/

/-- A system whose name has the start of project systems and something behind it. -/
def EngineSettings.IsProjectSystem (engine : EngineSettings) (system : String) : Prop :=
  exists rest, rest ≠ "" ∧ system = engine.projectSystemStart ++ rest

theorem EngineSettings.isProjectSystem_iff {engine : EngineSettings} {system : String} :
    engine.IsProjectSystem system <-> (engine.projectUuid? system).isSome = true := by
  constructor
  · intro h
    rcases h with ⟨rest, hrest, hsystem⟩
    have hafter : Text.after? engine.projectSystemStart.toList system.toList =
        some rest.toList := by
      rw [Text.after?_eq_some_iff, hsystem, String.toList_append]
    unfold projectUuid?
    rw [hafter]
    cases hlist : rest.toList with
    | nil => exact absurd (String.toList_eq_nil_iff.mp hlist) hrest
    | cons c tail => rfl
  · intro h
    unfold projectUuid? at h
    cases hafter : Text.after? engine.projectSystemStart.toList system.toList with
    | none =>
        rw [hafter] at h
        cases h
    | some rest =>
        refine ⟨String.ofList rest, ?_, ?_⟩
        · intro hempty
          rw [hafter, String.ofList_eq_empty_iff.mp hempty] at h
          cases h
        · apply String.toList_injective
          rw [String.toList_append, String.toList_ofList]
          exact Text.after?_eq_some_iff.mp hafter

theorem EngineSettings.isPublicSystem_iff {engine : EngineSettings} {system : String} :
    engine.isPublicSystem system = true <-> system ∈ engine.publicSystems :=
  List.contains_iff_mem

def Storage.lookup (answers : Storage Id) (system : String) :
    Except StorageError (Option String) :=
  (answers.externalId system).run.run

/-- What there is to come across in the published copy of a project's own system. -/
def PublishedTour (answers : Storage Id) (engine : EngineSettings) (system : String)
    (sights : List Sight) : Prop :=
  engine.IsProjectSystem system ∧ exists id, answers.lookup system = .ok (some id) ∧
    Tour answers engine engine.publishedSystem (engine.publishedRoot id) sights

/-- A file of the name that the current path ends with. -/
def Location.Matches (loc : Location) (entry : Entry) : Prop :=
  loc.currentPath.bind RemotePath.fileName? = some (FileIndex.nameOf entry)

/-- What comes of the search for the published copy of a private location: the first file
of its name, no such file, or no answer about the external project. -/
inductive Search (answers : Storage Id) (engine : EngineSettings) (loc : Location)
    (system : String) : Except StorageError Verdict -> Location -> Prop
  | relocated {place : String} {before after : List Sight} {entry : Entry}
      (htoured : PublishedTour answers engine system (before ++ .file entry :: after))
      (hmatches : loc.Matches entry)
      (hfirst : forall other, .file other ∈ before -> ¬ loc.Matches other)
      (hplace : place = "/" ++ RemotePath.relative entry.path) :
      Search answers engine loc system (.ok (.relocated engine.publishedSystem place))
        ((loc.withCurrent engine.publishedSystem place).withPublic true)
  | notPublic
      (hanswered : forall failure, engine.IsProjectSystem system ->
        answers.lookup system ≠ .error failure)
      (hnone : forall sights entry, PublishedTour answers engine system sights ->
        .file entry ∈ sights -> ¬ loc.Matches entry) :
      Search answers engine loc system (.ok .notPublic) (loc.withPublic false)
  | failed {failure : StorageError} (hproject : engine.IsProjectSystem system)
      (hlookup : answers.lookup system = .error failure) :
      Search answers engine loc system (.error failure) loc

/-- What the rules say about a location: the result, and the location with it. -/
inductive Ruling (answers : Storage Id) (engine : EngineSettings) (loc : Location) :
    Except StorageError Verdict -> Location -> Prop
  | unknown (hsystem : loc.currentSystem = none) : Ruling answers engine loc (.ok .unknown) loc
  | alreadyPublic {system : String} (hsystem : loc.currentSystem = some system)
      (hpublic : system ∈ engine.publicSystems) :
      Ruling answers engine loc (.ok .alreadyPublic) (loc.withPublic true)
  | searched {system : String} {result : Except StorageError Verdict} {next : Location}
      (hsystem : loc.currentSystem = some system) (hprivate : system ∉ engine.publicSystems)
      (hsearch : Search answers engine loc system result next) :
      Ruling answers engine loc result next

variable {answers : Storage Id} {engine : EngineSettings} {loc : Location} {system : String}
  {sights : List Sight}

theorem PublishedTour.unique (h : PublishedTour answers engine system sights) {other : List Sight}
    (h' : PublishedTour answers engine system other) : other = sights := by
  rcases h with ⟨_, id, hlookup, htour⟩
  rcases h' with ⟨_, id', hlookup', htour'⟩
  rw [hlookup] at hlookup'
  cases hlookup'
  exact htour.unique htour'

/-!
## Judging with covering indices
-/

theorem pathsNamed_cons_of_not {name : String} {sight : Sight}
    (h : forall entry, sight = .file entry -> FileIndex.nameOf entry ≠ name) (sights : List Sight) :
    pathsNamed name (sight :: sights) = pathsNamed name sights := by
  cases sight with
  | file entry => rw [pathsNamed_file, if_neg (h entry rfl).symm]
  | _ => exact pathsNamed_of_filed?_eq_none rfl name sights

theorem pathsNamed_cases (name : String) (sights : List Sight) :
    (pathsNamed name sights = [] ∧
      forall entry, .file entry ∈ sights -> FileIndex.nameOf entry ≠ name) ∨
    exists before entry after, sights = before ++ .file entry :: after ∧
      FileIndex.nameOf entry = name ∧
      (forall other, .file other ∈ before -> FileIndex.nameOf other ≠ name) ∧
      (pathsNamed name sights).head? = some (RemotePath.relative entry.path) := by
  induction sights with
  | nil => exact Or.inl ⟨rfl, (fun _ h => nomatch h)⟩
  | cons sight rest ih =>
      by_cases hhit : exists entry, sight = .file entry ∧ FileIndex.nameOf entry = name
      · rcases hhit with ⟨entry, hsight, hname⟩
        refine Or.inr ⟨[], entry, rest, ?_, hname, (fun _ h => nomatch h), ?_⟩
        · rw [hsight, List.nil_append]
        · rw [hsight, pathsNamed_file, if_pos hname.symm, List.head?_cons]
      · have hmiss : forall entry, sight = .file entry -> FileIndex.nameOf entry ≠ name :=
          fun entry hsight hname => hhit ⟨entry, hsight, hname⟩
        have hlonger : forall {others : List Sight},
            (forall other, .file other ∈ others -> FileIndex.nameOf other ≠ name) ->
              forall other, .file other ∈ sight :: others -> FileIndex.nameOf other ≠ name := by
          intro others hothers other hother
          rcases List.mem_cons.mp hother with hsight | hother
          · exact hmiss other hsight.symm
          · exact hothers other hother
        rw [pathsNamed_cons_of_not hmiss]
        rcases ih with ⟨hnil, hnone⟩ | ⟨before, entry, after, hrest, hname, hfirst, hhead⟩
        · exact Or.inl ⟨hnil, hlonger hnone⟩
        · refine Or.inr ⟨sight :: before, entry, after, ?_, hname, hlonger hfirst, hhead⟩
          rw [hrest, List.cons_append]

theorem FileIndex.Covers.resolve?_eq {index : FileIndex} {root : String}
    (h : index.Covers system root sights) (path : String) :
    index.resolve? path =
      (RemotePath.fileName? path).bind fun name => (pathsNamed name sights).head? := by
  unfold FileIndex.resolve?
  cases RemotePath.fileName? path with
  | none => rfl
  | some name =>
      dsimp only [Option.bind_some]
      rw [h.paths]
      cases pathsNamed name sights <;> rfl

namespace Surveyor

variable {surveyor : Surveyor Id}

/-- The index of the published copy that a system is told to have is one of what a tour
of it comes across. -/
def Faithful (surveyor : Surveyor Id) (system : String) : Prop :=
  forall id, surveyor.storage.lookup system = .ok (some id) ->
    exists sights,
      Tour surveyor.storage surveyor.engine surveyor.engine.publishedSystem
        (surveyor.engine.publishedRoot id) sights ∧
      (surveyor.index surveyor.engine.publishedSystem
        (surveyor.engine.publishedRoot id)).run.Covers surveyor.engine.publishedSystem
          (surveyor.engine.publishedRoot id) sights

theorem copied_cases (h : surveyor.Faithful system) :
    (exists failure, surveyor.copied system = .error failure ∧
      surveyor.engine.IsProjectSystem system ∧ surveyor.storage.lookup system = .error failure) ∨
    (forall failure, surveyor.engine.IsProjectSystem system ->
      surveyor.storage.lookup system ≠ .error failure) ∧
      (surveyor.copied system = .ok none ∧
          (forall sights, ¬ PublishedTour surveyor.storage surveyor.engine system sights) ∨
        exists index root sights, surveyor.copied system = .ok (some index) ∧
          PublishedTour surveyor.storage surveyor.engine system sights ∧
          index.Covers surveyor.engine.publishedSystem root sights) := by
  cases huuid : surveyor.engine.projectUuid? system with
  | none =>
      have hproject : ¬ surveyor.engine.IsProjectSystem system := by
        rw [EngineSettings.isProjectSystem_iff, huuid]
        exact Bool.false_ne_true
      have hcopied : surveyor.copied system = .ok none := by
        unfold copied linked
        rw [huuid]
      exact Or.inr ⟨fun _ h => absurd h hproject, Or.inl ⟨hcopied, fun _ h => hproject h.1⟩⟩
  | some uuid =>
      have hproject : surveyor.engine.IsProjectSystem system := by
        rw [EngineSettings.isProjectSystem_iff, huuid]
        rfl
      have hlinked : surveyor.linked system = surveyor.storage.lookup system := by
        unfold linked
        rw [huuid]
        rfl
      unfold copied
      rw [hlinked]
      cases hlookup : surveyor.storage.lookup system with
      | error failure => exact Or.inl ⟨failure, rfl, hproject, rfl⟩
      | ok project =>
          refine Or.inr ⟨(fun _ _ hanswer => nomatch hanswer), ?_⟩
          cases project with
          | none =>
              refine Or.inl ⟨rfl, ?_⟩
              intro sights htoured
              rcases htoured with ⟨_, id, hlookup', _⟩
              rw [hlookup] at hlookup'
              cases hlookup'
          | some id =>
              rcases h id hlookup with ⟨sights, htour, hcovers⟩
              exact Or.inr ⟨_, _, sights, rfl, ⟨hproject, id, hlookup, htour⟩, hcovers⟩

theorem search_of_covers {index : FileIndex} {root : String} (loc : Location)
    (hanswered : forall failure, engine.IsProjectSystem system ->
      answers.lookup system ≠ .error failure)
    (htoured : PublishedTour answers engine system sights)
    (hcovers : index.Covers engine.publishedSystem root sights) :
    match loc.currentPath.bind index.resolve? with
    | none => Search answers engine loc system (.ok .notPublic) (loc.withPublic false)
    | some path =>
        Search answers engine loc system
          (.ok (.relocated engine.publishedSystem (RemotePath.absolute path)))
          ((loc.withCurrent engine.publishedSystem (RemotePath.absolute path)).withPublic
            true) := by
  have hresolve : loc.currentPath.bind index.resolve? =
      (loc.currentPath.bind RemotePath.fileName?).bind fun name =>
        (pathsNamed name sights).head? := by
    cases loc.currentPath with
    | none => rfl
    | some path => exact hcovers.resolve?_eq path
  -- The tour is the only one, so that what it does not come across is nowhere.
  have hnone : (forall entry, .file entry ∈ sights -> ¬ loc.Matches entry) ->
      Search answers engine loc system (.ok .notPublic) (loc.withPublic false) := by
    intro hmiss
    refine .notPublic hanswered fun others entry hothers hentry => ?_
    rw [htoured.unique hothers] at hentry
    exact hmiss entry hentry
  rw [hresolve]
  cases hname : loc.currentPath.bind RemotePath.fileName? with
  | none =>
      apply hnone
      intro entry _ hmatches
      rw [Location.Matches, hname] at hmatches
      cases hmatches
  | some name =>
      have hmatches : forall entry, loc.Matches entry <-> FileIndex.nameOf entry = name := by
        intro entry
        rw [Location.Matches, hname, Option.some_inj, eq_comm]
      rw [Option.bind_some]
      rcases pathsNamed_cases name sights with
        ⟨hnil, hmiss⟩ | ⟨before, entry, after, hsights, hentry, hfirst, hhead⟩
      · rw [hnil]
        exact hnone fun entry hmem hmatch => hmiss entry hmem ((hmatches entry).mp hmatch)
      · rw [hhead]
        dsimp only
        rw [RemotePath.absolute_relative]
        rw [hsights] at htoured
        exact .relocated htoured ((hmatches entry).mpr hentry)
          (fun other hother hmatch => hfirst other hother ((hmatches other).mp hmatch)) rfl

/-- Where nothing is cached, judging meets the rules. -/
theorem ruling_judge (loc : Location)
    (h : forall system, loc.currentSystem = some system -> surveyor.Faithful system) :
    Ruling surveyor.storage surveyor.engine loc (surveyor.judge.alone loc).1
      (surveyor.judge.alone loc).2 := by
  rw [alone_judge]
  unfold judged
  cases hsystem : loc.currentSystem with
  | none => exact .unknown hsystem
  | some system =>
      dsimp only
      by_cases hpublic : system ∈ surveyor.engine.publicSystems
      · rw [if_pos (EngineSettings.isPublicSystem_iff.mpr hpublic)]
        exact .alreadyPublic hsystem hpublic
      · rw [if_neg (fun hcontains => hpublic (EngineSettings.isPublicSystem_iff.mp hcontains))]
        apply Ruling.searched hsystem hpublic
        rcases copied_cases (h system hsystem) with
          ⟨failure, hcopied, hproject, hlookup⟩ | ⟨hanswered, ⟨hcopied, hnone⟩ |
            ⟨index, root, sights, hcopied, htoured, hcovers⟩⟩
        · rw [hcopied]
          exact .failed hproject hlookup
        · rw [hcopied]
          exact .notPublic hanswered fun sights _ htoured => absurd htoured (hnone sights)
        · rw [hcopied]
          have hsearch := search_of_covers loc hanswered htoured hcovers
          dsimp only [Option.bind_some]
          cases hresolve : loc.currentPath.bind index.resolve? with
          | none =>
              rw [hresolve] at hsearch
              exact hsearch
          | some path =>
              rw [hresolve] at hsearch
              exact hsearch

end Surveyor

/-!
## One ruling
-/

theorem eq_of_first {p : α -> Prop} {before after before' after' : List α} {x y : α}
    (h : before ++ x :: after = before' ++ y :: after') (hx : p x) (hy : p y)
    (hbefore : forall z, z ∈ before -> ¬ p z) (hbefore' : forall z, z ∈ before' -> ¬ p z) :
    x = y := by
  induction before generalizing before' with
  | nil =>
      cases before' with
      | nil => exact (List.cons.inj h).1
      | cons z rest =>
          rw [(List.cons.inj h).1] at hx
          exact absurd hx (hbefore' z List.mem_cons_self)
  | cons z rest ih =>
      cases before' with
      | nil =>
          rw [<- (List.cons.inj h).1] at hy
          exact absurd hy (hbefore z List.mem_cons_self)
      | cons z' rest' =>
          exact ih (List.cons.inj h).2 (fun w hw => hbefore w (List.mem_cons_of_mem _ hw))
            fun w hw => hbefore' w (List.mem_cons_of_mem _ hw)

section Unique

variable {result result' : Except StorageError Verdict} {next next' : Location}

theorem Location.first_unique {before after before' after' : List Sight} {entry entry' : Entry}
    (h : before ++ .file entry :: after = before' ++ .file entry' :: after')
    (hentry : loc.Matches entry) (hentry' : loc.Matches entry')
    (hfirst : forall other, .file other ∈ before -> ¬ loc.Matches other)
    (hfirst' : forall other, .file other ∈ before' -> ¬ loc.Matches other) : entry = entry' := by
  have hsight : Sight.file entry = .file entry' := by
    apply eq_of_first (p := fun sight => exists other, sight = .file other ∧ loc.Matches other) h
    · exact ⟨entry, rfl, hentry⟩
    · exact ⟨entry', rfl, hentry'⟩
    · intro sight hmem hhit
      rcases hhit with ⟨other, rfl, hother⟩
      exact hfirst other hmem hother
    · intro sight hmem hhit
      rcases hhit with ⟨other, rfl, hother⟩
      exact hfirst' other hmem hother
  exact Sight.file.inj hsight

theorem PublishedTour.lookup_ne_error (h : PublishedTour answers engine system sights)
    (failure : StorageError) : answers.lookup system ≠ .error failure := by
  rcases h.2 with ⟨id, hanswer, _⟩
  rw [hanswer]
  exact (fun h => nomatch h)

theorem Search.unique (h : Search answers engine loc system result next)
    (h' : Search answers engine loc system result' next') : result' = result ∧ next' = next := by
  have hmem : forall {before after : List Sight} {entry : Entry},
      Sight.file entry ∈ before ++ .file entry :: after :=
    List.mem_append_right _ List.mem_cons_self
  cases h with
  | relocated htoured hmatches hfirst hplace =>
      cases h' with
      | relocated htoured' hmatches' hfirst' hplace' =>
          have hentry := Location.first_unique (htoured.unique htoured') hmatches' hmatches
            hfirst' hfirst
          rw [hplace, hplace', hentry]
          exact ⟨rfl, rfl⟩
      | notPublic _ hnone => exact absurd hmatches (hnone _ _ htoured hmem)
      | failed _ hlookup => exact absurd hlookup (htoured.lookup_ne_error _)
  | notPublic hanswered hnone =>
      cases h' with
      | relocated htoured hmatches => exact absurd hmatches (hnone _ _ htoured hmem)
      | notPublic => exact ⟨rfl, rfl⟩
      | failed hproject hlookup => exact absurd hlookup (hanswered _ hproject)
  | failed hproject hlookup =>
      cases h' with
      | relocated htoured => exact absurd hlookup (htoured.lookup_ne_error _)
      | notPublic hanswered => exact absurd hlookup (hanswered _ hproject)
      | failed _ hlookup' =>
          cases hlookup.symm.trans hlookup'
          exact ⟨rfl, rfl⟩

/-- There is no more than one ruling. -/
theorem Ruling.unique (h : Ruling answers engine loc result next)
    (h' : Ruling answers engine loc result' next') : result' = result ∧ next' = next := by
  cases h with
  | unknown hsystem =>
      cases h' with
      | unknown => exact ⟨rfl, rfl⟩
      | alreadyPublic hsystem' | searched hsystem' => cases hsystem.symm.trans hsystem'
  | alreadyPublic hsystem hpublic =>
      cases h' with
      | unknown hsystem' => cases hsystem.symm.trans hsystem'
      | alreadyPublic => exact ⟨rfl, rfl⟩
      | searched hsystem' hprivate =>
          cases hsystem.symm.trans hsystem'
          exact absurd hpublic hprivate
  | searched hsystem hprivate hsearch =>
      cases h' with
      | unknown hsystem' => cases hsystem.symm.trans hsystem'
      | alreadyPublic hsystem' hpublic =>
          cases hsystem.symm.trans hsystem'
          exact absurd hpublic hprivate
      | searched hsystem' _ hsearch' =>
          cases hsystem.symm.trans hsystem'
          exact hsearch.unique hsearch'

end Unique

/-!
## Caches that checks come to
-/

/-- Caches that parts of passes leave behind, over any items and in any order.  A later
check starts with nothing but the external ids. -/
inductive Surveyor.Reached (surveyor : Surveyor (StateM σ)) : Caches -> Prop
  | fresh : surveyor.Reached .empty
  | later {caches : Caches} (h : surveyor.Reached caches) :
      surveyor.Reached { Caches.empty with externalIds := caches.externalIds }
  | repair {caches : Caches} (h : surveyor.Reached caches) (provenance : Provenance)
      (asset : Asset) (loc : Location) (world : σ) :
      surveyor.Reached
        ((surveyor.repair provenance asset).amid { location := loc, caches } world).1.2.caches
  | judge {caches : Caches} (h : surveyor.Reached caches) (loc : Location) (world : σ) :
      surveyor.Reached (surveyor.judge.amid { location := loc, caches } world).1.2.caches
  | assignProject {caches : Caches} (h : surveyor.Reached caches) (loc : Location) (world : σ) :
      surveyor.Reached (surveyor.assignProject.amid { location := loc, caches } world).1.2.caches

namespace Surveyor

variable {surveyor : Surveyor (StateM σ)} {caches : Caches}

def Stays (surveyor : Surveyor (StateM σ)) (y : Step (StateM σ) α) : Prop :=
  forall loc caches world, surveyor.Reached caches ->
    surveyor.Reached (y.amid { location := loc, caches } world).1.2.caches

theorem stays_pure (a : α) : surveyor.Stays (pure a : Step (StateM σ) α) :=
  fun _ _ _ h => h

theorem stays_bind {β : Type} {x : Step (StateM σ) α} {f : α -> Step (StateM σ) β}
    (hx : surveyor.Stays x) (hf : forall a, surveyor.Stays (f a)) : surveyor.Stays (x >>= f) := by
  intro loc caches world h
  have hfirst := hx loc caches world h
  rcases hrun : x.amid { location := loc, caches } world with ⟨⟨result, after⟩, between⟩
  rw [hrun] at hfirst
  cases result with
  | error failure =>
      rw [Step.amid_bind_of_error hrun]
      exact hfirst
  | ok a =>
      rw [Step.amid_bind_of_ok hrun]
      exact hf a after.location after.caches between hfirst

theorem stays_reconcile : surveyor.Stays surveyor.reconcile := by
  apply stays_bind (fun loc caches world h => h.judge loc world)
  intro verdict
  exact stays_bind (fun loc caches world h => h.assignProject loc world) fun _ => stays_pure verdict

theorem Reached.treat (h : surveyor.Reached caches) (provenance : Provenance) (item : Tracked)
    (time : Instant) (world : σ) :
    surveyor.Reached ((surveyor.treat provenance item time caches).run world).1.2.caches := by
  have hpass : surveyor.Stays (surveyor.pass provenance item) := by
    cases item with
    | asset asset =>
        exact stays_bind (fun loc caches world h => h.repair provenance asset loc world)
          fun _ => stays_reconcile
    | tileServer server => exact stays_reconcile
  exact hpass (item.location.touched time) caches world h

end Surveyor

theorem Step.amid_of_transparent {surveyor : Surveyor Id} {x : Step (StateM σ) α} {y : Step Id α}
    (hsteps : (Lockstep.fixed σ).Steps x y) (hy : Transparent surveyor y) {caches : Caches}
    (h : Coherent surveyor caches) (loc : Location) (world : σ) :
    exists after, (x.amid { location := loc, caches } world).1 =
        ((y.alone loc).1, { location := (y.alone loc).2, caches := after }) ∧
      Coherent surveyor after := by
  rcases hy loc caches h with ⟨after, hon, hafter⟩
  exact ⟨after, (hsteps { location := loc, caches } world).trans hon, hafter⟩

/-- Reached caches hold what a storage of fixed answers would give again. -/
theorem Surveyor.Reached.holds {surveyor : Surveyor (StateM σ)}
    (hfollows : surveyor.storage.Follows answers) {caches : Caches} (h : surveyor.Reached caches) :
    Coherent (surveyor.over answers) caches := by
  have hsteps : forall {β : Type} {x : Step (StateM σ) β} {y : Step Id β},
      (Lockstep.fixed σ).Steps x y -> Transparent (surveyor.over answers) y ->
        forall {caches : Caches}, Coherent (surveyor.over answers) caches -> forall loc world,
          Coherent (surveyor.over answers)
            (x.amid { location := loc, caches } world).1.2.caches := by
    intro β x y hxy hy caches hcaches loc world
    rcases Step.amid_of_transparent hxy hy hcaches loc world with ⟨after, hrun, hafter⟩
    rw [hrun]
    exact hafter
  induction h with
  | fresh => exact Coherent.empty _
  | later _ ih => exact Agreeing.coherent ih.externalIds
  | repair _ provenance asset loc world ih =>
      exact hsteps (Lockstep.steps_repair hfollows provenance asset)
        (transparent_repair _ provenance asset) ih loc world
  | judge _ loc world ih =>
      exact hsteps (Lockstep.steps_judge hfollows) (transparent_judge _) ih loc world
  | assignProject _ loc world ih =>
      exact hsteps (Lockstep.steps_assignProject hfollows) (transparent_assignProject _) ih loc
        world

/-!
## Verdicts are rulings
-/

/-- With enough levels the index of the published copy of a system is one of a tour, unless
directories lead back to themselves there. -/
theorem exists_faithful (answers : Storage Id) (engine : EngineSettings) (system : String)
    (hfounded : forall id, answers.lookup system = .ok (some id) ->
      Acc (LeadsTo answers engine engine.publishedSystem) (engine.publishedRoot id)) :
    exists height, forall depth, height ≤ depth ->
      Surveyor.Faithful { storage := answers, engine, depth } system := by
  cases hlookup : answers.lookup system with
  | error failure => exact ⟨0, fun _ _ id h => nomatch hlookup.symm.trans h⟩
  | ok project =>
      cases project with
      | none => exact ⟨0, fun _ _ id h => nomatch hlookup.symm.trans h⟩
      | some id =>
          rcases exists_tour (hfounded id hlookup) with ⟨sights, htour⟩
          have hfollows : (Storage.answering answers : Storage (StateM Unit)).Follows answers :=
            Storage.answering_follows answers
          rcases htour.surveyed hfollows with ⟨height, hsurveyed⟩
          refine ⟨height, fun depth hdepth id' h => ?_⟩
          cases hlookup.symm.trans h
          let surveyor : Surveyor (StateM (Recorded Unit)) :=
            { storage := (Storage.answering answers).recorded, engine, depth }
          have hanswers : surveyor.storage.Follows answers := hfollows.recorded
          let world : Recorded Unit := { exchanges := [], inner := () }
          rcases hsurveyed depth hdepth world with ⟨index, after, hrun, hcovers, _⟩
          have hindex : index =
              (Surveyor.index { storage := answers, engine, depth } engine.publishedSystem
                (engine.publishedRoot id)).run := by
            have hsame := Lockstep.rel_index (hanswers.list engine.publishedSystem)
              (engine.publishedRoot id) world
            rw [hrun] at hsame
            exact hsame
          rw [hindex] at hcovers
          exact ⟨sights, htour, hcovers⟩

theorem exists_height
    (hfounded : forall system id, answers.lookup system = .ok (some id) ->
      Acc (LeadsTo answers engine engine.publishedSystem) (engine.publishedRoot id))
    (loc : Location) :
    exists height, forall depth, height ≤ depth -> forall system,
      loc.currentSystem = some system ->
        Surveyor.Faithful { storage := answers, engine, depth } system := by
  cases loc.currentSystem with
  | none => exact ⟨0, fun _ _ _ h => nomatch h⟩
  | some system =>
      rcases exists_faithful answers engine system (hfounded system) with ⟨height, hfaithful⟩
      refine ⟨height, fun depth hdepth other h => ?_⟩
      cases h
      exact hfaithful depth hdepth

/-- A location is moved exactly when its published copy has a file of its name. -/
theorem Ruling.relocated_iff {result : Except StorageError Verdict} {next : Location}
    (h : Ruling answers engine loc result next) :
    (exists target place, result = .ok (.relocated target place)) <->
      exists system sights entry, loc.currentSystem = some system ∧
        system ∉ engine.publicSystems ∧ PublishedTour answers engine system sights ∧
        .file entry ∈ sights ∧ loc.Matches entry := by
  constructor
  · intro hmoved
    rcases hmoved with ⟨target, place, rfl⟩
    cases h with
    | searched hsystem hprivate hsearch =>
        cases hsearch with
        | relocated htoured hmatches =>
            exact ⟨_, _, _, hsystem, hprivate, htoured,
              List.mem_append_right _ List.mem_cons_self, hmatches⟩
  · intro hcopy
    rcases hcopy with ⟨system, sights, entry, hsystem, hprivate, htoured, hentry, hmatches⟩
    cases h with
    | unknown hsystem' => cases hsystem.symm.trans hsystem'
    | alreadyPublic hsystem' hpublic =>
        cases hsystem.symm.trans hsystem'
        exact absurd hpublic hprivate
    | searched hsystem' _ hsearch =>
        cases hsystem.symm.trans hsystem'
        cases hsearch with
        | relocated => exact ⟨_, _, rfl⟩
        | notPublic _ hnone => exact absurd hmatches (hnone sights entry htoured hentry)
        | failed _ hlookup => exact absurd hlookup (htoured.lookup_ne_error _)

theorem amid_judge_of_public (surveyor : Surveyor (StateM σ)) (caches : Caches) (world : σ)
    (h : forall system, loc.currentSystem = some system ->
      system ∈ surveyor.engine.publicSystems) :
    exists result next, surveyor.judge.amid { location := loc, caches } world =
      ((result, { location := next, caches }), world) := by
  unfold Surveyor.judge
  rw [Step.amid_location_bind]
  cases hsystem : loc.currentSystem with
  | none => exact ⟨_, _, rfl⟩
  | some system =>
      have hpublic := EngineSettings.isPublicSystem_iff.mpr (h system hsystem)
      simp only [hpublic, if_true]
      exact ⟨_, _, rfl⟩

/-- From whatever caches checks have come to, the verdict on a location and what becomes of
it are the one ruling there is.  It moves the location exactly when the published copy has a
file of its name, and asks nothing of remote storage where there is no current system or a
public one. -/
theorem judge_eq_ruling {remote : Storage (StateM ω)} (hfollows : remote.Follows answers)
    (engine : EngineSettings)
    (hfounded : forall system id, answers.lookup system = .ok (some id) ->
      Acc (LeadsTo answers engine engine.publishedSystem) (engine.publishedRoot id))
    (loc : Location) :
    exists result next,
      (forall result' next', Ruling answers engine loc result' next' <->
        result' = result ∧ next' = next) ∧
      ((exists target place, result = .ok (.relocated target place)) <->
        exists system sights entry, loc.currentSystem = some system ∧
          system ∉ engine.publicSystems ∧ PublishedTour answers engine system sights ∧
          .file entry ∈ sights ∧ loc.Matches entry) ∧
      exists height, forall depth, height ≤ depth -> forall caches,
        Surveyor.Reached { storage := remote.recorded, engine, depth } caches ->
          forall world : Recorded ω, exists cached after,
            (Surveyor.judge { storage := remote.recorded, engine, depth }).amid
                { location := loc, caches } world =
              ((result, { location := next, caches := cached }), after) ∧
            ((forall system, loc.currentSystem = some system -> system ∈ engine.publicSystems) ->
              cached = caches ∧ after.exchanges = world.exchanges) := by
  rcases exists_height hfounded loc with ⟨height, hfaithful⟩
  let judged : Nat -> Except StorageError Verdict × Location := fun depth =>
    (Surveyor.judge { storage := answers, engine, depth }).alone loc
  have hruling : forall depth, height ≤ depth ->
      Ruling answers engine loc (judged depth).1 (judged depth).2 :=
    fun depth hdepth => Surveyor.ruling_judge loc (hfaithful depth hdepth)
  -- There is only one ruling, so that more levels make no difference.
  have hone := hruling height (Nat.le_refl height)
  refine ⟨(judged height).1, (judged height).2, ?_, hone.relocated_iff, height, ?_⟩
  · intro result' next'
    refine ⟨hone.unique, ?_⟩
    rintro ⟨rfl, rfl⟩
    exact hone
  · intro depth hdepth caches hreached world
    let surveyor : Surveyor (StateM (Recorded ω)) :=
      { storage := remote.recorded, engine, depth }
    have hanswers : surveyor.storage.Follows answers := hfollows.recorded
    rcases Step.amid_of_transparent (Lockstep.steps_judge hanswers) (transparent_judge _)
      (hreached.holds hanswers) loc world with ⟨cached, hrun, _⟩
    rcases hout : surveyor.judge.amid { location := loc, caches } world with ⟨out, after⟩
    rw [hout] at hrun
    change out = ((judged depth).1, { location := (judged depth).2, caches := cached }) at hrun
    rcases hone.unique (hruling depth hdepth) with ⟨hresult, hnext⟩
    rw [hresult, hnext] at hrun
    refine ⟨cached, after, by rw [hrun], ?_⟩
    intro hpublic
    rcases amid_judge_of_public surveyor caches world hpublic with ⟨result', next', hstill⟩
    rw [hout, hrun] at hstill
    cases hstill
    exact ⟨rfl, rfl⟩

/-!
## A sample
-/

namespace Sample

/-- A published copy with deleted files, and with a name that occurs in a folder before it
occurs beside it. -/
def archive : Storage Id where
  list := fun system path =>
    if path = "/published-data/PRJ-1/" then
      .ok [shelf.folder "published-data/PRJ-1/.Trash", shelf.folder "published-data/PRJ-1/old",
        shelf.leaf "b.jpg" "published-data/PRJ-1/b.jpg"]
    else if path = "published-data/PRJ-1/old" then
      .ok [shelf.leaf "b.jpg" "published-data/PRJ-1/old/b.jpg"]
    else .error (.notListable system path)
  stat := fun system path => .error (.notListable system path)
  externalId := fun system => .ok (if system = "project-a" then some "PRJ-1" else none)

def archiveSights : List Sight :=
  [.opened "/published-data/PRJ-1/", .trash (shelf.folder "published-data/PRJ-1/.Trash"),
    .opened "published-data/PRJ-1/old"]

theorem archive_publishedTour :
    PublishedTour archive .standard "project-a"
      (archiveSights ++ .file (shelf.leaf "b.jpg" "published-data/PRJ-1/old/b.jpg") ::
        [.file (shelf.leaf "b.jpg" "published-data/PRJ-1/b.jpg")]) := by
  have hroot : EngineSettings.standard.publishedRoot "PRJ-1" = "/published-data/PRJ-1/" := by
    decide +kernel
  have hfolder : Walk archive .standard "designsafe.storage.published"
      [shelf.leaf "b.jpg" "published-data/PRJ-1/old/b.jpg"]
      [.file (shelf.leaf "b.jpg" "published-data/PRJ-1/old/b.jpg")] :=
    .file rfl .nil
  have hbeside : Walk archive .standard "designsafe.storage.published"
      [shelf.folder "published-data/PRJ-1/old",
        shelf.leaf "b.jpg" "published-data/PRJ-1/b.jpg"]
      (.opened "published-data/PRJ-1/old" ::
        ([.file (shelf.leaf "b.jpg" "published-data/PRJ-1/old/b.jpg")] ++
          [.file (shelf.leaf "b.jpg" "published-data/PRJ-1/b.jpg")])) :=
    .opened rfl (by decide) rfl hfolder (.file rfl .nil)
  refine ⟨⟨"a", by decide, by decide⟩, "PRJ-1", rfl, ?_⟩
  rw [hroot]
  exact .opened rfl (.trash rfl (by decide) hbeside)

theorem archive_first :
    Ruling archive .standard (placed "project-a" "/b.jpg")
      (.ok (.relocated "designsafe.storage.published" "/published-data/PRJ-1/old/b.jpg"))
      (((placed "project-a" "/b.jpg").withCurrent "designsafe.storage.published"
        "/published-data/PRJ-1/old/b.jpg").withPublic true) := by
  have hname : RemotePath.fileName? "/b.jpg" =
      some (FileIndex.nameOf (shelf.leaf "b.jpg" "published-data/PRJ-1/old/b.jpg")) := by
    decide +kernel
  refine .searched rfl (by decide) (.relocated archive_publishedTour hname ?_ (by decide +kernel))
  intro other hother
  simp [archiveSights] at hother

def archiveLevels (path : String) : Nat :=
  if path = "/published-data/PRJ-1/" then 1 else 0

theorem archiveLevels_lt {child parent : String}
    (h : LeadsTo archive .standard "designsafe.storage.published" child parent) :
    archiveLevels child < archiveLevels parent := by
  rcases h with ⟨entries, entry, hlist, hentry, hkind, htrash, rfl⟩
  by_cases hroot : parent = "/published-data/PRJ-1/"
  · subst hroot
    cases hlist
    revert hkind htrash
    revert entry hentry
    decide
  · by_cases hold : parent = "published-data/PRJ-1/old"
    · subst hold
      cases hlist
      revert hkind htrash
      revert entry hentry
      decide
    · have hbarred : archive.listing "designsafe.storage.published" parent =
          .error (.notListable "designsafe.storage.published" parent) := by
        simp only [Storage.listing, archive, hroot, hold, if_false]
        rfl
      rw [hbarred] at hlist
      cases hlist

def archiveSurveyor (depth : Nat) : Surveyor (StateM (Recorded Unit)) where
  storage := (Storage.answering archive).recorded
  engine := .standard
  depth := depth

end Sample

theorem judge_eq_ruling_sample :
    exists height, forall depth, height ≤ depth -> forall caches,
      (Sample.archiveSurveyor depth).Reached caches -> forall world, exists cached after,
        (Sample.archiveSurveyor depth).judge.amid
            { location := Sample.placed "project-a" "/b.jpg", caches } world =
          ((.ok (.relocated "designsafe.storage.published" "/published-data/PRJ-1/old/b.jpg"),
            { location := ((Sample.placed "project-a" "/b.jpg").withCurrent
                "designsafe.storage.published" "/published-data/PRJ-1/old/b.jpg").withPublic true,
              caches := cached }), after) := by
  have hfounded : forall system id, Sample.archive.lookup system = .ok (some id) ->
      Acc (LeadsTo Sample.archive .standard "designsafe.storage.published")
        (EngineSettings.standard.publishedRoot id) :=
    fun _ id _ => (Subrelation.wf Sample.archiveLevels_lt (measure Sample.archiveLevels).wf).apply _
  rcases judge_eq_ruling (Storage.answering_follows Sample.archive) .standard hfounded
    (Sample.placed "project-a" "/b.jpg") with ⟨result, next, hrules, _, height, hjudge⟩
  rcases (hrules _ _).mp Sample.archive_first with ⟨hresult, hnext⟩
  refine ⟨height, fun depth hdepth caches hreached world => ?_⟩
  rcases hjudge depth hdepth caches hreached world with ⟨cached, after, hrun, _⟩
  rw [<- hresult, <- hnext] at hrun
  exact ⟨cached, after, hrun⟩

end Whereabouts
