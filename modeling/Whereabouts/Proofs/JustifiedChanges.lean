import Mathlib.Data.List.DropRight
import Whereabouts.Proofs.Accounting
import Whereabouts.Proofs.PassEffects

/-!
# Why locations change

Why a check may change a location.  Every place that it puts there was recorded already
or was confirmed by an exchange of this very check, and nothing that was recorded gets
lost.
-/

namespace Whereabouts

variable {ω : Type}

/-!
## Findings
-/

section Findings

variable {surveyor : Surveyor (StateM (Recorded ω))} {provenance : Provenance}
  {origin : Database} {unread : Fault -> Prop}

/-- A finding whose location, if there is one, is accounted for by a record. -/
def Finding.Accounted (finding : Finding) (provenance : Provenance) (target : String)
    (origin : Database) (exchanges : List Exchange) : Prop :=
  forall loc, finding.result = .ok loc -> exists item time,
    origin.tracked? finding.key = some item ∧
      Account provenance target exchanges (item.location.touched time) item loc

theorem Assess.accounted (hrecords : surveyor.storage.Records) {start after : Caches × Recorded ω}
    {finding : Finding} (h : Assess surveyor provenance origin unread start finding after)
    (hstart : start.1.Backed start.2.exchanges surveyor.engine.publishedSystem) :
    start.2.exchanges ⊆ after.2.exchanges ∧
      after.1.Backed after.2.exchanges surveyor.engine.publishedSystem ∧
      forall later, after.2.exchanges ⊆ later ->
        finding.Accounted provenance surveyor.engine.publishedSystem origin later := by
  cases h with
  | unread hfault =>
      refine ⟨List.Subset.refl _, hstart, ?_⟩
      intro later _ loc hloc
      cases hloc
  | checked time hitem =>
      rename_i key item
      let bench : Bench := { location := item.location.touched time, caches := start.1 }
      rcases hrun : (surveyor.pass provenance item).amid bench start.2 with
        ⟨⟨result, last⟩, final⟩
      have htreat : (surveyor.treat provenance item time start.1).run start.2 =
          ((result, last), final) := hrun
      rcases yields_pass hrecords item bench start.2 result last final hstart hrun with
        ⟨hsub, hbacked, hdeed⟩
      unfold Surveyor.assess
      rw [htreat]
      cases result with
      | error failure =>
          refine ⟨hsub, hbacked, ?_⟩
          intro later _ loc hloc
          cases hloc
      | ok verdict =>
          refine ⟨hsub, hbacked, ?_⟩
          intro later hlater loc hloc
          cases hloc
          exact ⟨item, time, hitem, hdeed verdict rfl later hlater⟩

theorem Assessed.accounted (hrecords : surveyor.storage.Records)
    {start after : Caches × Recorded ω} {findings : List Finding}
    (h : Assessed surveyor provenance origin unread start findings after)
    (hstart : start.1.Backed start.2.exchanges surveyor.engine.publishedSystem) :
    start.2.exchanges ⊆ after.2.exchanges ∧
      forall finding, finding ∈ findings ->
        finding.Accounted provenance surveyor.engine.publishedSystem origin
          after.2.exchanges := by
  induction h with
  | nil start => exact ⟨List.Subset.refl _, fun _ hfinding => nomatch hfinding⟩
  | cons first others ih =>
      rcases first.accounted hrecords hstart with ⟨hsub, hbacked, hfirst⟩
      rcases ih hbacked with ⟨hsub', hothers⟩
      refine ⟨List.Subset.trans hsub hsub', ?_⟩
      intro finding hfinding
      rcases List.mem_cons.mp hfinding with hfinding | hfinding
      · rw [hfinding]
        exact hfirst _ hsub'
      · exact hothers finding hfinding

theorem Surveyor.assess_along {υ : Type} {image : ω -> υ} {surveyor : Surveyor (StateM ω)}
    {storage : Storage (StateM υ)} (h : (Lockstep.along image).Storages surveyor.storage storage)
    (provenance : Provenance) (item : Tracked) (time : Instant) (caches : Caches) (world : ω) :
    exists result known between,
      surveyor.assess provenance item time (caches, world) = (result, (known, between)) ∧
      (surveyor.over storage).assess provenance item time (caches, image world) =
        (result, (known, image between)) := by
  have htreat := Lockstep.rel_treat h provenance item time caches world
  rcases hrun : (surveyor.treat provenance item time caches).run world with
    ⟨⟨result, bench⟩, between⟩
  rw [hrun] at htreat
  unfold assess
  rw [hrun, htreat]
  cases result with
  | error failure => exact ⟨_, _, _, rfl, rfl⟩
  | ok verdict => exact ⟨_, _, _, rfl, rfl⟩

theorem Assessed.along {υ : Type} {image : ω -> υ} {surveyor : Surveyor (StateM ω)}
    {storage : Storage (StateM υ)} (h : (Lockstep.along image).Storages surveyor.storage storage)
    {start after : Caches × υ} {findings : List Finding}
    (hassessed : Assessed (surveyor.over storage) provenance origin unread start findings after)
    {world : ω} (hstart : start.2 = image world) :
    exists final, after.2 = image final ∧
      Assessed surveyor provenance origin unread (start.1, world) findings (after.1, final) := by
  induction hassessed generalizing world with
  | nil start => exact ⟨world, hstart, .nil _⟩
  | @cons start _ _ _ _ first others ih =>
      rcases start with ⟨caches, _⟩
      cases hstart
      cases first with
      | unread hfault =>
          rcases ih rfl with ⟨final, hfinal, hrest⟩
          exact ⟨final, hfinal, .cons (.unread hfault) hrest⟩
      | checked time hitem =>
          rename_i key item
          rcases surveyor.assess_along h provenance item time caches world with
            ⟨result, known, between, hassess, himage⟩
          rw [himage] at ih ⊢
          rcases ih rfl with ⟨final, hfinal, hrest⟩
          exact ⟨final, hfinal, .cons (.of_eq hitem hassess) hrest⟩

end Findings

/-!
## What justifies a change
-/

/-- The current place is what it was, or the origin, or a published copy that was
listed. -/
def Location.Grounded (target : String) (exchanges : List Exchange) (loc last : Location) :
    Prop :=
  (last.currentSystem = loc.currentSystem ∧ last.currentPath = loc.currentPath) ∨
    (exists system path, last.originSystem = some system ∧ last.originPath = some path ∧
      last.currentSystem = some system ∧ last.currentPath = some path) ∨
    exists path, Offered exchanges target path ∧
      last.currentSystem = some target ∧ last.currentPath = some ("/" ++ path)

/-- A location that changed for a reason only.  A new current place is the recorded
origin or a published copy that was listed; a new path of origin was described on the
owning system; and to a path of origin that was recorded only the owning system was added,
where something was listed under that path. -/
structure JustifiedChange (project : Project) (target : String) (exchanges : List Exchange)
    (item : Tracked) (loc last : Location) : Prop where
  current : loc.Grounded target exchanges last
  originPath : last.originPath = loc.originPath ∨
    (loc.originPath = none ∧ exists row owner path entry,
      item = .asset row ∧ row.assetType = .pointCloud ∧
        project.systemId = some owner ∧ owner ≠ "" ∧
        last.originSystem = some owner ∧ last.originPath = some path ∧
        Exchange.stat owner path (.ok entry) ∈ exchanges)
  originSystem : last.originPath = loc.originPath -> last.originSystem = loc.originSystem ∨
    (loc.originSystem = none ∧ exists owner path entry rest,
      project.systemId = some owner ∧ owner ≠ "" ∧
        last.originSystem = some owner ∧ last.originPath = some path ∧
        Exchange.list owner path (.ok (entry :: rest)) ∈ exchanges)

/-- A location in which nothing that was recorded got lost, and no recorded part of the
origin changed. -/
structure Location.Grows (loc last : Location) : Prop where
  originSystem : forall system, loc.originSystem = some system ->
    last.originSystem = some system
  originPath : forall path, loc.originPath = some path -> last.originPath = some path
  currentSystem : loc.currentSystem.isSome = true -> last.currentSystem.isSome = true
  currentPath : loc.currentPath.isSome = true -> last.currentPath.isSome = true
  externalId : loc.externalId.isSome = true -> last.externalId.isSome = true
  isPublic : loc.isPublic.isSome = true -> last.isPublic.isSome = true
  checkedAt : loc.checkedAt.isSome = true -> last.checkedAt.isSome = true

section Accounts

variable {provenance : Provenance} {target : String} {exchanges : List Exchange}
  {loc next last : Location}

theorem Project.of_owningSystem?_eq_some {project : Project} {owner : String}
    (h : project.owningSystem? = some owner) : project.systemId = some owner ∧ owner ≠ "" := by
  unfold owningSystem? at h
  rcases Option.filter_eq_some_iff.mp h with ⟨hsystem, hne⟩
  exact ⟨hsystem, by simpa using hne⟩

theorem RemotePath.absolute_relative (path : String) :
    RemotePath.absolute (RemotePath.relative path) = "/" ++ RemotePath.relative path := by
  unfold RemotePath.absolute RemotePath.relative Text.dropStart
  rw [String.toList_ofList, List.dropWhile_idempotent]
  apply String.toList_injective
  simp

theorem Location.Grows.refl (loc : Location) : loc.Grows loc :=
  ⟨fun _ h => h, fun _ h => h, fun h => h, fun h => h, fun h => h, fun h => h, fun h => h⟩

theorem Location.Grows.trans (h : loc.Grows next) (h' : next.Grows last) : loc.Grows last :=
  ⟨fun _ hs => h'.originSystem _ (h.originSystem _ hs),
    fun _ hs => h'.originPath _ (h.originPath _ hs),
    fun hs => h'.currentSystem (h.currentSystem hs), fun hs => h'.currentPath (h.currentPath hs),
    fun hs => h'.externalId (h.externalId hs), fun hs => h'.isPublic (h.isPublic hs),
    fun hs => h'.checkedAt (h.checkedAt hs)⟩

theorem Location.grows_touched (loc : Location) (time : Instant) :
    loc.Grows (loc.touched time) :=
  { Location.Grows.refl loc with checkedAt := fun _ => rfl }

theorem Location.grows_withOrigin {system path : String}
    (hsystem : forall recorded, loc.originSystem = some recorded -> recorded = system)
    (hpath : forall recorded, loc.originPath = some recorded -> recorded = path) :
    loc.Grows (loc.withOrigin system path) :=
  { Location.Grows.refl loc with
    originSystem := fun recorded h => congrArg some (hsystem recorded h).symm
    originPath := fun recorded h => congrArg some (hpath recorded h).symm }

theorem Location.grows_withCurrent (loc : Location) (system path : String) :
    loc.Grows (loc.withCurrent system path) :=
  { Location.Grows.refl loc with currentSystem := fun _ => rfl, currentPath := fun _ => rfl }

theorem Location.grows_withPublic (loc : Location) (verdict : Bool) :
    loc.Grows (loc.withPublic verdict) :=
  { Location.Grows.refl loc with isPublic := fun _ => rfl }

theorem Location.grows_filled (loc : Location) : loc.Grows (Surveyor.filled loc) := by
  rw [filled_eq]
  cases Surveyor.completion? loc with
  | none => exact .refl loc
  | some place => exact loc.grows_withCurrent place.1 place.2

theorem Sourced.grows {row : Asset} (h : Sourced provenance row exchanges loc next) :
    loc.Grows next := by
  cases h with
  | kept => exact .refl loc
  | found htype hpath hsystem howner hstat =>
      apply Location.grows_withOrigin hsystem
      intro recorded hrecorded
      rw [hpath] at hrecorded
      cases hrecorded

theorem Owned.grows (h : Owned provenance exchanges loc next) : loc.Grows next := by
  cases h with
  | kept => exact .refl loc
  | found hsystem hpath howner hlist =>
      apply Location.grows_withOrigin
      · intro recorded hrecorded
        rw [hsystem] at hrecorded
        cases hrecorded
      · intro recorded hrecorded
        rw [hpath] at hrecorded
        exact (Option.some.inj hrecorded).symm

theorem Judged.grows (h : Judged target exchanges loc next) : loc.Grows next := by
  cases h with
  | kept => exact .refl loc
  | decided verdict => exact loc.grows_withPublic verdict
  | moved hoffered =>
      exact (loc.grows_withCurrent _ _).trans (Location.grows_withPublic _ true)

theorem Attributed.grows (h : Attributed loc next) : loc.Grows next := by
  cases h with
  | kept => exact .refl loc
  | assigned id => exact { Location.Grows.refl loc with externalId := fun _ => rfl }

theorem Account.grows {item : Tracked} (h : Account provenance target exchanges loc item last) :
    loc.Grows last := by
  cases h with
  | asset hsource howner hjudged hlast =>
      exact hsource.grows.trans (howner.grows.trans ((Location.grows_filled _).trans
        (hjudged.grows.trans hlast.grows)))
  | tileServer hjudged hlast => exact hjudged.grows.trans hlast.grows

/-!
Of the last two parts of a pass the first may move the current place, and neither
touches the origin.
-/

theorem Judged.current (h : Judged target exchanges loc next) :
    (next.originSystem = loc.originSystem ∧ next.originPath = loc.originPath) ∧
      ((next.currentSystem = loc.currentSystem ∧ next.currentPath = loc.currentPath) ∨
        exists path, Offered exchanges target path ∧
          next.currentSystem = some target ∧ next.currentPath = some ("/" ++ path)) := by
  cases h with
  | kept => exact ⟨⟨rfl, rfl⟩, Or.inl ⟨rfl, rfl⟩⟩
  | decided verdict => exact ⟨⟨rfl, rfl⟩, Or.inl ⟨rfl, rfl⟩⟩
  | moved hoffered =>
      rename_i path
      refine ⟨⟨rfl, rfl⟩, Or.inr ⟨path, hoffered, rfl, ?_⟩⟩
      rcases hoffered with ⟨_, _, entry, _, _, _, hpath⟩
      rw [hpath, ← RemotePath.absolute_relative]
      rfl

theorem Attributed.current (h : Attributed loc next) :
    (next.originSystem = loc.originSystem ∧ next.originPath = loc.originPath) ∧
      next.currentSystem = loc.currentSystem ∧ next.currentPath = loc.currentPath := by
  cases h <;> exact ⟨⟨rfl, rfl⟩, rfl, rfl⟩

theorem filled_current (loc : Location) :
    ((Surveyor.filled loc).originSystem = loc.originSystem ∧
      (Surveyor.filled loc).originPath = loc.originPath) ∧
      (((Surveyor.filled loc).currentSystem = loc.currentSystem ∧
          (Surveyor.filled loc).currentPath = loc.currentPath) ∨
        exists system path, loc.originSystem = some system ∧ loc.originPath = some path ∧
          (Surveyor.filled loc).currentSystem = some system ∧
          (Surveyor.filled loc).currentPath = some path) := by
  rw [filled_eq]
  cases hplace : Surveyor.completion? loc with
  | none => exact ⟨⟨rfl, rfl⟩, Or.inl ⟨rfl, rfl⟩⟩
  | some place =>
      rcases of_completion?_eq_some hplace with ⟨hsystem, hpath⟩
      exact ⟨⟨rfl, rfl⟩, Or.inr ⟨place.1, place.2, hsystem, hpath, rfl, rfl⟩⟩

theorem Sourced.current {row : Asset} (h : Sourced provenance row exchanges loc next) :
    next.currentSystem = loc.currentSystem ∧ next.currentPath = loc.currentPath := by
  cases h <;> exact ⟨rfl, rfl⟩

theorem Owned.current (h : Owned provenance exchanges loc next) :
    next.currentSystem = loc.currentSystem ∧ next.currentPath = loc.currentPath := by
  cases h <;> exact ⟨rfl, rfl⟩

theorem Judged.grounded {filled judged : Location}
    (hjudged : Judged target exchanges filled judged) (hlast : Attributed judged last)
    (hfilled : (filled.currentSystem = loc.currentSystem ∧
        filled.currentPath = loc.currentPath) ∨
      exists system path, filled.originSystem = some system ∧ filled.originPath = some path ∧
        filled.currentSystem = some system ∧ filled.currentPath = some path) :
    (last.originSystem = filled.originSystem ∧ last.originPath = filled.originPath) ∧
      loc.Grounded target exchanges last := by
  rcases hjudged.current with ⟨⟨hsystem, hpath⟩, hmoved⟩
  rcases hlast.current with ⟨⟨hsystem', hpath'⟩, hplace, hfile⟩
  have horigin := And.intro (hsystem'.trans hsystem) (hpath'.trans hpath)
  refine ⟨horigin, ?_⟩
  unfold Location.Grounded
  rw [hplace, hfile, horigin.1, horigin.2]
  rcases hmoved with ⟨hplace', hfile'⟩ | hoffered
  · rw [hplace', hfile']
    rcases hfilled with hsame | horigin'
    · exact Or.inl hsame
    · exact Or.inr (Or.inl horigin')
  · exact Or.inr (Or.inr hoffered)

theorem Account.justified {item : Tracked}
    (h : Account provenance target exchanges loc item last) :
    JustifiedChange provenance.project target exchanges item loc last := by
  cases h with
  | tileServer hjudged hlast =>
      rcases hjudged.grounded hlast (Or.inl ⟨rfl, rfl⟩) with ⟨⟨hsystem, hpath⟩, hcurrent⟩
      exact ⟨hcurrent, Or.inl hpath, fun _ => Or.inl hsystem⟩
  | @asset row sourced owned judged _ hsource howner hjudged hlast =>
      rcases filled_current owned with ⟨⟨hsystem, hpath⟩, hfilled⟩
      rw [howner.current.1, howner.current.2, hsource.current.1, hsource.current.2, ← hsystem,
        ← hpath] at hfilled
      rcases hjudged.grounded hlast hfilled with ⟨⟨hsystem', hpath'⟩, hcurrent⟩
      rw [hsystem] at hsystem'
      rw [hpath] at hpath'
      cases hsource with
      | kept =>
          cases howner with
          | kept => exact ⟨hcurrent, Or.inl hpath', fun _ => Or.inl hsystem'⟩
          | found hnone hrecorded hproject hlist =>
              rcases Project.of_owningSystem?_eq_some hproject with ⟨hnamed, hne⟩
              refine ⟨hcurrent, Or.inl (hpath'.trans hrecorded.symm), fun _ => Or.inr ?_⟩
              exact ⟨hnone, _, _, _, _, hnamed, hne, hsystem', hpath', hlist⟩
      | found htype hnone hsame hproject hstat =>
          rcases Project.of_owningSystem?_eq_some hproject with ⟨hnamed, hne⟩
          cases howner with
          | kept =>
              refine ⟨hcurrent, Or.inr ⟨hnone, row, _, _, _, rfl, htype, hnamed, hne, hsystem',
                hpath', hstat⟩, ?_⟩
              intro hunchanged
              rw [hpath', hnone] at hunchanged
              cases hunchanged
          | found hmissing _ _ _ => cases hmissing

end Accounts

/-!
## Checks
-/

section Checks

variable {σ : Type} {view : View σ (Recorded ω)} {checker : Checker (StateM σ)}
  {remote : Storage (StateM ω)} {connect : String -> Attempt (StateM σ) (Storage (StateM σ))}

theorem Sweep.start_backed (externalIds : OrderedMap String (Option String))
    (exchanges : List Exchange) (target : String) :
    (Sweep.start externalIds).caches.Backed exchanges target := by
  intro system index hindex
  cases hindex

theorem Assessed.accounted_new {remote : Storage (StateM ω)} {provenance : Provenance}
    {origin : Database} {unread : Fault -> Prop} {engine : EngineSettings} {depth : Nat}
    {externalIds : OrderedMap String (Option String)} {world after : Recorded ω}
    {caches : Caches} {findings : List Finding}
    (h : Assessed { storage := remote.recorded, engine, depth } provenance origin unread
      ((Sweep.start externalIds).caches, world) findings (caches, after)) :
    exists exchanges, after.exchanges = exchanges ++ world.exchanges ∧
      forall finding, finding ∈ findings ->
        finding.Accounted provenance engine.publishedSystem origin exchanges := by
  let start : Recorded ω := { exchanges := [], inner := world.inner }
  let surveyor : Surveyor (StateM (Recorded ω)) :=
    { storage := remote.recorded, engine, depth }
  have hover : Assessed (surveyor.over remote.recorded) provenance origin unread
      ((Sweep.start externalIds).caches, world) findings (caches, after) := h
  have hstart : world = Recorded.onto world.exchanges start := rfl
  rcases hover.along (remote.recorded_along_onto world.exchanges) hstart with
    ⟨final, hfinal, hassessed⟩
  rcases hassessed.accounted remote.recorded_records (Sweep.start_backed externalIds _ _) with
    ⟨_, haccounted⟩
  exact ⟨final.exchanges, congrArg Recorded.exchanges hfinal, haccounted⟩

/-- However a check ends, it changed a location for a reason only, which the exchanges
that it made confirm; and so did every database that it saved on its way. -/
theorem conduct_changes_justified (halone : checker.Alone view)
    (hconnects : Connects connect view remote.recorded) {projectId userId : Int64}
    {externalIds known : OrderedMap String (Option String)} {s after : σ}
    {result : Except Fault CheckOutcome} (hkeyed : (view.database s).Keyed)
    (hrun : (checker.conduct projectId userId externalIds connect).run s =
      ((result, known), after)) :
    exists exchanges saved,
      (view.outside after).exchanges = exchanges ++ (view.outside s).exchanges ∧
      view.saved after = saved ++ view.saved s ∧
      forall db, db ∈ view.database after :: saved -> forall key item last,
        (view.database s).tracked? key = some item -> db.location? key = some last ->
        last ≠ item.location -> exists project,
          (view.database s).projects.get? projectId = some project ∧
          JustifiedChange project checker.engine.publishedSystem exchanges item item.location
            last := by
  rcases Checker.conduct_spec halone hconnects projectId userId externalIds s hkeyed with
    ⟨_, findings, caches, _, hconduct, hkeeps, hcases⟩
  rw [hconduct] at hrun
  cases hrun
  rcases hkeeps.saved with ⟨saved, hsaved, hreached⟩
  have hall : forall db, db ∈ view.database after :: saved ->
      Database.Reached (view.database s) projectId findings db := by
    intro db hdb
    rcases List.mem_cons.mp hdb with hdb | hdb
    · rw [hdb]
      exact hkeeps.database
    · exact hreached db hdb
  rcases hcases with ⟨hnone, _, houtside, _⟩ | ⟨setup, hsetup, hassessed, _, _⟩
  · refine ⟨[], saved, ?_, hsaved, ?_⟩
    · rw [houtside]
      rfl
    · intro db hdb key item last hitem hlast hne
      rcases (hall db hdb).tracked?_cases key with hsame | ⟨finding, _, hmem, _⟩
      · unfold Database.location? at hlast
        rw [hsame, hitem] at hlast
        exact absurd (Option.some.inj hlast).symm hne
      · rw [hnone] at hmem
        cases hmem
  · rcases Assessed.accounted_new hassessed with ⟨exchanges, hexchanges, haccounted⟩
    refine ⟨exchanges, saved, hexchanges, hsaved, ?_⟩
    intro db hdb key item last hitem hlast hne
    refine ⟨setup.project, (Database.of_setup_eq_ok hsetup).1, ?_⟩
    unfold Database.location? at hlast
    rcases (hall db hdb).tracked?_cases key with hsame |
      ⟨finding, loc, hmem, hkey, hloc, hmoved⟩
    · rw [hsame, hitem] at hlast
      exact absurd (Option.some.inj hlast).symm hne
    · rcases haccounted finding hmem loc hloc with ⟨other, time, hother, haccount⟩
      rw [hkey, hitem] at hother
      cases hother
      rw [hmoved, hitem] at hlast
      have hlast' := Option.some.inj hlast
      rw [Tracked.location_moved] at hlast'
      subst hlast'
      exact ⟨haccount.justified.current, haccount.justified.originPath,
        haccount.justified.originSystem⟩

end Checks

namespace Sample

def recordedMemory : MemoryWorld (Recorded Unit) where
  database := database
  saved := []
  outside := { exchanges := [], inner := () }

def recordedConnect (_token : String) :
    Attempt (StateM (MemoryWorld (Recorded Unit)))
      (Storage (StateM (MemoryWorld (Recorded Unit)))) :=
  pure (MemoryWorld.storage (Storage.answering answers).recorded)

theorem recordedConnects :
    Connects recordedConnect MemoryWorld.view (Storage.answering answers).recorded where
  still := fun _ => View.still_pure _
  acts := by
    intro token memory storage h
    cases h
    exact MemoryWorld.storage_acts _

def recordedCheck :
    (Except Fault CheckOutcome × OrderedMap String (Option String)) × MemoryWorld (Recorded Unit) :=
  ((MemoryWorld.checker engine 4 time).conduct 1 1 .empty recordedConnect).run recordedMemory

end Sample

/-- In the sample's check the second image moves to a published copy, which was listed. -/
theorem conduct_changes_justified_sample :
    exists outcome after exchanges item last project,
      Sample.recordedCheck = (outcome, after) ∧ after.outside.exchanges = exchanges ∧
      Sample.database.tracked? ⟨.asset, 2⟩ = some item ∧
      item.location.currentSystem = some "project-a" ∧
      after.database.location? ⟨.asset, 2⟩ = some last ∧
      last.currentSystem = some "designsafe.storage.published" ∧
      last.currentPath = some "/published-data/PRJ-1/b.jpg" ∧
      Sample.database.projects.get? 1 = some project ∧
      JustifiedChange project "designsafe.storage.published" exchanges item item.location last := by
  have hmoved : (Sample.recordedCheck.2.database.location? ⟨.asset, 2⟩).map
      (fun loc => (loc.currentSystem, loc.currentPath)) =
        some (some "designsafe.storage.published", some "/published-data/PRJ-1/b.jpg") := by
    decide +kernel
  have hitem : Sample.database.tracked? ⟨.asset, 2⟩ =
      some (.asset (Sample.image 2 (Sample.placed "project-a" "/b.jpg"))) := rfl
  rcases hcheck : Sample.recordedCheck with ⟨⟨result, known⟩, after⟩
  rw [hcheck] at hmoved
  rcases Option.map_eq_some_iff.mp hmoved with ⟨last, hlast, hplace⟩
  rcases Prod.mk.inj hplace with ⟨hsystem, hpath⟩
  have hne : last ≠ Sample.placed "project-a" "/b.jpg" := by
    intro heq
    rw [heq] at hsystem
    simp [Sample.placed] at hsystem
  have hkeyed : Sample.database.Keyed := by decide
  rcases @conduct_changes_justified _ _ MemoryWorld.view
    (MemoryWorld.checker Sample.engine 4 Sample.time) _ _
    (MemoryWorld.checker_alone Sample.engine 4 Sample.time) Sample.recordedConnects 1 1 .empty
    known Sample.recordedMemory after result hkeyed hcheck with
    ⟨exchanges, saved, hexchanges, _, hall⟩
  rcases hall after.database List.mem_cons_self ⟨.asset, 2⟩ _ last hitem hlast hne with
    ⟨project, hproject, hjustified⟩
  exact ⟨_, after, exchanges, _, last, project, rfl, hexchanges.trans (List.append_nil _), hitem,
    rfl, hlast, hsystem, hpath, hproject, hjustified⟩

end Whereabouts
