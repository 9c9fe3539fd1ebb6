import Whereabouts.Proofs.RelocationTargets
import Whereabouts.Proofs.ProjectNames

/-!
# Attributions

An item that has moved to its published copy is attributed to the external project that its
system is linked to: the path names that project before any other one, so that remote
storage is not asked again.
-/

namespace Whereabouts

variable {ω : Type}

/-!
## Templates with the mark as a segment
-/

namespace EngineSettings

/-- The segments of a template: fixed ones, the mark, and any others.  No fixed one has the
mark in it or is the name of a published project. -/
structure Marked (engine : EngineSettings) (fixed others : List (List Char)) : Prop where
  segments : Text.pieces '/' engine.publishedRootTemplate.toList =
    fixed ++ projectMark :: others
  unmarked : forall segment, segment ∈ fixed -> Text.occursIn projectMark segment = false
  unnamed : forall segment, segment ∈ fixed -> RemotePath.isProjectName segment = false

/-- Segments with a slash behind each. -/
def front (segments : List (List Char)) : List Char :=
  segments.flatMap fun segment => segment ++ ['/']

theorem joined_front (fixed : List (List Char)) (mark : List Char) (others : List (List Char)) :
    Text.joined '/' (fixed ++ mark :: others) =
      front fixed ++ Text.joined '/' (mark :: others) := by
  induction fixed with
  | nil => rfl
  | cons segment rest ih =>
      rw [List.cons_append, Text.joined, ih]
      · simp [front]
      · simp

theorem unmarked_front {fixed : List (List Char)}
    (h : forall segment, segment ∈ fixed -> Text.occursIn projectMark segment = false) :
    Unmarked (front fixed) := by
  induction fixed with
  | nil =>
      intro early late more heq hne
      exact absurd (List.append_eq_nil_iff.mp heq.symm).2 hne
  | cons segment rest ih =>
      exact (unmarked_name (h segment List.mem_cons_self)).append
        (ih fun other hother => h other (List.mem_cons_of_mem _ hother))

theorem namesIn_front {fixed : List (List Char)}
    (h : forall segment, segment ∈ fixed -> '/' ∉ segment) (s : List Char) :
    RemotePath.namesIn (front fixed ++ s) =
      fixed.filter (fun segment => !segment.isEmpty) ++ RemotePath.namesIn s := by
  induction fixed with
  | nil => rfl
  | cons segment rest ih =>
      have hsplit : front (segment :: rest) ++ s = segment ++ '/' :: (front rest ++ s) := by
        simp [front]
      have hsegment : RemotePath.namesIn segment =
          [segment].filter fun segment => !segment.isEmpty := by
        rw [RemotePath.namesIn, Text.pieces_of_not_mem (h segment List.mem_cons_self)]
      rw [hsplit, RemotePath.namesIn_append_slash, hsegment,
        ih fun other hother => h other (List.mem_cons_of_mem _ hother), ← List.append_assoc,
        ← List.filter_append, List.singleton_append]

theorem replaceFrom_ends {rest : List Char} (h : RemotePath.Ends rest) (new : List Char) :
    RemotePath.Ends (Text.replaceFrom projectMark new 0 rest) := by
  rcases h with rfl | ⟨more, rfl⟩
  · exact Or.inl rfl
  · exact Or.inr ⟨_, rfl⟩

/-- The first name of a published root that is not fixed is the id of the project, when the
id is a name. -/
theorem Marked.names {engine : EngineSettings} {fixed others : List (List Char)}
    (h : engine.Marked fixed others) {id : String} (hne : id.toList ≠ [])
    (hslash : '/' ∉ id.toList) :
    exists rest, RemotePath.names (engine.publishedRoot id) =
      fixed.filter (fun segment => !segment.isEmpty) ++ id.toList :: rest := by
  have htail : exists tail, RemotePath.Ends tail ∧
      Text.joined '/' (projectMark :: others) = projectMark ++ tail := by
    cases others with
    | nil => exact ⟨[], Or.inl rfl, rfl⟩
    | cons next more => exact ⟨_, Or.inr ⟨_, rfl⟩, rfl⟩
  rcases htail with ⟨tail, htail, hjoined⟩
  have htext : engine.publishedRootTemplate.toList = front fixed ++ (projectMark ++ tail) := by
    rw [← Text.joined_pieces '/' engine.publishedRootTemplate.toList, h.segments, joined_front,
      hjoined]
  have hroot : (engine.publishedRoot id).toList = front fixed ++
      (id.toList ++ Text.replaceFrom projectMark id.toList 0 tail) := by
    rw [publishedRoot, String.toList_ofList, htext, Text.replaceAll, if_neg (by decide),
      replaceFrom_unmarked (unmarked_front h.unmarked), replaceFrom_mark]
  have hsegments : forall segment, segment ∈ fixed -> '/' ∉ segment := by
    intro segment hsegment
    apply Text.not_mem_of_mem_pieces (s := engine.publishedRootTemplate.toList)
    rw [h.segments]
    exact List.mem_append_left _ hsegment
  rw [RemotePath.names, hroot, namesIn_front hsegments]
  rcases replaceFrom_ends htail id.toList with hend | ⟨more, hend⟩
  · rw [hend, List.append_nil, RemotePath.namesIn_name hne hslash]
    exact ⟨[], rfl⟩
  · rw [hend, RemotePath.namesIn_append_slash, RemotePath.namesIn_name hne hslash]
    exact ⟨_, rfl⟩

theorem Marked.publishedProject? {engine : EngineSettings} {fixed others : List (List Char)}
    (h : engine.Marked fixed others) {id : String}
    (hid : RemotePath.isProjectName id.toList = true) {path : String}
    (hpath : RemotePath.Below (RemotePath.names (engine.publishedRoot id)) path) :
    RemotePath.publishedProject? path = some id := by
  rcases h.names (RemotePath.ne_nil_of_isProjectName hid)
    (RemotePath.slash_not_mem_of_isProjectName hid) with ⟨rest, hroot⟩
  rcases hpath with ⟨more, _, hnames⟩
  have hfixed : (fixed.filter fun segment => !segment.isEmpty).find?
      RemotePath.isProjectName = none := by
    rw [List.find?_eq_none]
    intro segment hsegment
    rw [h.unnamed segment (List.mem_filter.mp hsegment).1]
    exact Bool.false_ne_true
  rw [RemotePath.publishedProject?_eq, hnames, hroot, List.append_assoc, List.find?_append,
    hfixed, Option.none_or, List.cons_append, List.find?_cons_of_pos hid, Option.map_some,
    String.ofList_toList]

end EngineSettings

/-!
## Attributions of relocated items
-/

theorem amid_assignProject_of_named {surveyor : Surveyor (StateM ω)} {bench : Bench} {world : ω}
    {id : String} (h : surveyor.publishedProject? bench.location = some id) :
    surveyor.assignProject.amid bench world =
      ((.ok (), { bench with location := bench.location.withExternalId id }), world) := by
  unfold Surveyor.assignProject
  rw [Step.amid_location_bind, h]
  rfl

section Attributions

variable {surveyor : Surveyor (StateM (Recorded ω))} {fixed others : List (List Char)}
  {start after : Caches × Recorded ω}

/-- Where parts of passes lead, over any items and in any order: the caches that they leave
and the state of remote storage. -/
inductive Surveyor.PassesTo (surveyor : Surveyor (StateM (Recorded ω)))
    (start : Caches × Recorded ω) : Caches × Recorded ω -> Prop
  | start : PassesTo surveyor start start
  | repair {provenance : Provenance} {asset : Asset} {bench after : Bench}
      {world final : Recorded ω} {result : Except StorageError Repairs}
      (h : PassesTo surveyor start (bench.caches, world))
      (hrun : (surveyor.repair provenance asset).amid bench world = ((result, after), final)) :
      PassesTo surveyor start (after.caches, final)
  | judge {bench after : Bench} {world final : Recorded ω}
      {result : Except StorageError Verdict} (h : PassesTo surveyor start (bench.caches, world))
      (hrun : surveyor.judge.amid bench world = ((result, after), final)) :
      PassesTo surveyor start (after.caches, final)
  | assignProject {bench after : Bench} {world final : Recorded ω}
      {result : Except StorageError Unit} (h : PassesTo surveyor start (bench.caches, world))
      (hrun : surveyor.assignProject.amid bench world = ((result, after), final)) :
      PassesTo surveyor start (after.caches, final)

theorem Surveyor.PassesTo.moves (h : surveyor.PassesTo start after) :
    exists work, surveyor.Moves surveyor.build start work after := by
  induction h with
  | start => exact ⟨[], .nil start⟩
  | repair _ hrun ih =>
      rcases ih with ⟨early, hearly⟩
      rcases works_repair surveyor surveyor.build _ _ _ _ _ _ hrun with ⟨late, hlate, _⟩
      exact ⟨early ++ late, hearly.trans hlate⟩
  | judge _ hrun ih =>
      rcases ih with ⟨early, hearly⟩
      rcases works_judge surveyor surveyor.build _ _ _ _ _ hrun with ⟨late, hlate, _⟩
      exact ⟨early ++ late, hearly.trans hlate⟩
  | assignProject _ hrun ih =>
      rcases ih with ⟨early, hearly⟩
      rcases works_assignProject surveyor surveyor.build _ _ _ _ _ hrun with ⟨late, hlate, _⟩
      exact ⟨early ++ late, hearly.trans hlate⟩

/-- Whatever was done before in a check, an item that is relocated is then attributed to the
external project that remote storage told for its system, without another call. -/
theorem relocated_attributed (hrecords : surveyor.storage.Records)
    (hpublic : surveyor.engine.publishedSystem ∈ surveyor.engine.publicSystems)
    (hmarked : surveyor.engine.Marked fixed others)
    (hnested : surveyor.storage.Nested surveyor.engine.publishedSystem)
    {known : OrderedMap String (Option String)} {world between final : Recorded ω}
    (htold : forall system id, known.get? system = some id ->
      .externalId system (.ok id) ∈ world.exchanges)
    {bench after : Bench} {system target place : String}
    (hpasses : surveyor.PassesTo ((Sweep.start known).caches, world) (bench.caches, between))
    (hsystem : bench.location.currentSystem = some system)
    (hrun : surveyor.judge.amid bench between = ((.ok (.relocated target place), after), final))
    (hproject : forall id, after.caches.externalIds.get? system = some (some id) ->
      RemotePath.isProjectName id.toList = true) :
    exists id, after.caches.externalIds.get? system = some (some id) ∧
      .externalId system (.ok (some id)) ∈ final.exchanges ∧
      surveyor.assignProject.amid after final =
        ((.ok (), { after with location := after.location.withExternalId id }), final) := by
  rcases (hpasses.judge hrun).moves with ⟨work, hmoves⟩
  have hstart : Caches.CopiesBelowRoots (Sweep.start known).caches surveyor.engine :=
    fun _ _ hindex => nomatch hindex
  have htold' : Caches.IdsTold (Sweep.start known).caches world.exchanges := htold
  rcases hmoves.copiesBelowRoots hrecords hnested hstart htold' with ⟨hroots, hall⟩
  rcases of_judge_relocated hrun with
    ⟨current, index, path, hcurrent, hindex, hfiled, rfl, rfl, hplace, hfile⟩
  rw [hsystem] at hcurrent
  cases hcurrent
  rcases hroots system index hindex with ⟨id, hid, hwithin⟩
  rcases hwithin path hfiled with ⟨full, hbelow, rfl⟩
  refine ⟨id, hid, hall system _ hid, amid_assignProject_of_named ?_⟩
  have hnamed := hmarked.publishedProject? (hproject id hid) hbelow.of_relative
  have hpublic' : surveyor.engine.isPublicSystem surveyor.engine.publishedSystem = true :=
    List.contains_iff_mem.mpr hpublic
  unfold Surveyor.publishedProject?
  rw [hplace, hfile]
  dsimp only
  rw [if_pos hpublic', Option.bind_some, hnamed]

end Attributions

namespace Sample

/-- The published copy of one project, in which a folder has the name of another one. -/
def anthology : Storage Id where
  list := fun system path =>
    if RemotePath.names path = ["published-data".toList, "PRJ-9".toList] then
      .ok [{ name := "PRJ-4", path := "published-data/PRJ-9/PRJ-4", kind := .directory,
             size := none }]
    else if RemotePath.names path =
        ["published-data".toList, "PRJ-9".toList, "PRJ-4".toList] then
      .ok [{ name := "x.jpg", path := "/published-data/PRJ-9/PRJ-4/x.jpg", kind := .file,
             size := none }]
    else .error (.notListable system path)
  stat := fun system path => .error (.notListable system path)
  externalId := fun _ => .ok (some "PRJ-9")

def anthologySurveyor : Surveyor (StateM (Recorded Unit)) where
  storage := (Storage.answering anthology).recorded
  engine := .standard
  depth := 4

def firstVerdict : (Except StorageError Verdict × Bench) × Recorded Unit :=
  anthologySurveyor.judge.amid
    { location := placed "project-abc" "/y.jpg", caches := (Sweep.start .empty).caches }
    { exchanges := [], inner := () }

def borrowed : Location :=
  { placed "project-abc" "/old/x.jpg" with originSystem := some "project-def" }

def borrowedBench : Bench where
  location := borrowed
  caches := firstVerdict.1.2.caches

def borrowedVerdict : (Except StorageError Verdict × Bench) × Recorded Unit :=
  anthologySurveyor.judge.amid borrowedBench firstVerdict.2

theorem anthologist_nested :
    anthologySurveyor.storage.Nested anthologySurveyor.engine.publishedSystem := by
  intro path world entries after hlist entry hentry
  have hanswer : anthology.list anthologySurveyor.engine.publishedSystem path = .ok entries :=
    congrArg Prod.fst hlist
  dsimp only [anthology] at hanswer
  split at hanswer
  · rename_i hnames
    cases hanswer
    rw [List.mem_singleton.mp hentry, hnames]
    exact ⟨"PRJ-4".toList, by decide⟩
  · split at hanswer
    · rename_i hnames
      cases hanswer
      rw [List.mem_singleton.mp hentry, hnames]
      exact ⟨"x.jpg".toList, by decide⟩
    · cases hanswer

theorem standard_marked :
    EngineSettings.standard.Marked [[], "published-data".toList] [[]] where
  segments := by decide +kernel
  unmarked := by decide
  unnamed := by decide

end Sample

/-- The folder in the published copy and the system of origin make no difference. -/
theorem relocated_attributed_borrowed :
    exists after final,
      Sample.borrowedVerdict = ((.ok (.relocated "designsafe.storage.published"
        "/published-data/PRJ-9/PRJ-4/x.jpg"), after), final) ∧
      Sample.anthologySurveyor.assignProject.amid after final =
        ((.ok (), { after with location := after.location.withExternalId "PRJ-9" }), final) := by
  let world : Recorded Unit := { exchanges := [], inner := () }
  have hresult : Sample.borrowedVerdict.1.1 = .ok (.relocated "designsafe.storage.published"
      "/published-data/PRJ-9/PRJ-4/x.jpg") := by
    decide +kernel
  have hlinked : Sample.borrowedVerdict.1.2.caches.externalIds.get? "project-abc" =
      some (some "PRJ-9") := by
    decide +kernel
  rcases hrun : Sample.borrowedVerdict with ⟨⟨result, after⟩, final⟩
  rw [hrun] at hresult hlinked
  cases hresult
  have hproject : forall id, after.caches.externalIds.get? "project-abc" = some (some id) ->
      RemotePath.isProjectName id.toList = true := by
    intro id hid
    rw [hlinked] at hid
    cases hid
    decide
  have htold : forall system id, OrderedMap.empty.get? system = some id ->
      Exchange.externalId system (.ok id) ∈ world.exchanges :=
    fun _ _ h => nomatch h
  have hperused : Sample.anthologySurveyor.PassesTo ((Sweep.start .empty).caches, world)
      (Sample.firstVerdict.1.2.caches, Sample.firstVerdict.2) :=
    .judge .start (show _ = Sample.firstVerdict from rfl)
  have hpasses : Sample.anthologySurveyor.PassesTo ((Sweep.start .empty).caches, world)
      (Sample.borrowedBench.caches, Sample.firstVerdict.2) := hperused
  rcases relocated_attributed (Storage.recorded_records _) (by decide) Sample.standard_marked
    Sample.anthologist_nested htold hpasses
    (show Sample.borrowedBench.location.currentSystem = some "project-abc" from rfl)
      hrun hproject with
    ⟨id, hid, _, hassigned⟩
  rw [hlinked] at hid
  cases hid
  exact ⟨after, final, rfl, hassigned⟩

end Whereabouts
