import Mathlib.Tactic.Common
import Whereabouts.Proofs.Names
import Whereabouts.Proofs.PassPlan

/-!
# Where relocations lead

An item that has a published copy is moved to a file below the directory that the template
names for the external project of the item's system.  The directories are compared by the
names in them, so that it makes no difference how many slashes stand between two names.
-/

namespace Whereabouts

variable {ω : Type}

/-!
## Names in paths
-/

namespace RemotePath

/-- A path has names behind those of a directory. -/
def Below (directory : List (List Char)) (path : String) : Prop :=
  exists rest, rest ≠ [] ∧ names path = directory ++ rest

theorem Below.of_relative {directory : List (List Char)} {path : String}
    (h : Below directory path) : Below directory (absolute (relative path)) := by
  rcases h with ⟨rest, hne, hnames⟩
  refine ⟨rest, hne, ?_⟩
  rw [names_absolute, names_relative]
  exact hnames

theorem Below.unique {front one other : List (List Char)} {path : String}
    (h : Below (front ++ one) path) (h' : Below (front ++ other) path)
    (hlength : other.length = one.length) : other = one := by
  rcases h with ⟨rest, _, hnames⟩
  rcases h' with ⟨rest', _, hnames'⟩
  rw [hnames, List.append_assoc, List.append_assoc] at hnames'
  exact (List.append_inj_left (List.append_cancel_left hnames') hlength.symm).symm

end RemotePath

/-!
## Templates
-/

namespace EngineSettings

/-- A template with fixed names in front of the mark. -/
def templateWith (fixed : List (List Char)) : String :=
  String.ofList ('/' :: Text.joined '/' fixed ++ '/' :: projectMark ++ ['/'])

/-- Names that a template may be fixed with: none is empty, holds a slash or has the mark
in it. -/
def Fixed (fixed : List (List Char)) : Prop :=
  forall name, name ∈ fixed ->
    name ≠ [] ∧ '/' ∉ name ∧ Text.occursIn projectMark name = false

/-- The mark does not start anywhere in a text, whatever follows the text. -/
def Unmarked (s : List Char) : Prop :=
  forall early late more, s = early ++ late -> late ≠ [] -> ¬ projectMark <+: late ++ more

theorem Unmarked.append {a b : List Char} (ha : Unmarked a) (hb : Unmarked b) :
    Unmarked (a ++ b) := by
  intro early late more heq hne
  rcases List.append_eq_append_iff.mp heq with ⟨between, rfl, rfl⟩ | ⟨between, rfl, rfl⟩
  · exact hb between late more rfl hne
  · cases between with
    | nil => exact hb [] b more rfl hne
    | cons c between =>
        rw [List.append_assoc]
        exact ha early (c :: between) (b ++ more) rfl (List.cons_ne_nil _ _)

theorem slash_not_mem_projectMark : '/' ∉ projectMark := by
  decide

theorem unmarked_name {name : List Char} (h : Text.occursIn projectMark name = false) :
    Unmarked (name ++ ['/']) := by
  intro early late more heq hne hmark
  have houtside : ¬ projectMark <:+: name :=
    fun hinside => Bool.false_ne_true (h.symm.trans (Text.occursIn_iff_infix.mpr hinside))
  have hlate : exists tail, late = tail ++ ['/'] ∧ tail <:+ name := by
    rcases List.append_eq_append_iff.mp heq with
      ⟨between, _, hslash⟩ | ⟨between, hname, hlate⟩
    · rcases List.append_eq_singleton_iff.mp hslash.symm with ⟨_, hlate⟩ | ⟨_, hlate⟩
      · exact ⟨[], hlate, List.nil_suffix⟩
      · exact absurd hlate hne
    · exact ⟨between, hlate, early, hname.symm⟩
  rcases hlate with ⟨tail, rfl, htail⟩
  rw [List.append_assoc] at hmark
  have hwhole : tail ++ ['/'] <+: tail ++ (['/'] ++ more) :=
    (List.prefix_append_right_inj tail).mpr (List.prefix_append _ _)
  -- A mark that starts in the name either ends in it or takes the slash in.
  rcases Nat.le_total projectMark.length tail.length with hshort | hlong
  · have hinside := List.prefix_of_prefix_length_le hmark (List.prefix_append _ _) hshort
    exact houtside (hinside.isInfix.trans htail.isInfix)
  · rcases Nat.eq_or_lt_of_le hlong with hsame | hlonger
    · have hinside := List.prefix_of_prefix_length_le hmark (List.prefix_append _ _)
        (Nat.le_of_eq hsame.symm)
      exact houtside (hinside.isInfix.trans htail.isInfix)
    · have hover : tail ++ ['/'] <+: projectMark := by
        apply List.prefix_of_prefix_length_le hwhole hmark
        rw [List.length_append]
        exact hlonger
      exact slash_not_mem_projectMark
        (List.IsPrefix.mem (List.mem_append_right _ (List.mem_singleton_self _)) hover)

theorem unmarked_slash : Unmarked ['/'] :=
  @unmarked_name [] (by decide)

theorem unmarked_fixed {fixed : List (List Char)} (h : Fixed fixed) :
    Unmarked (Text.joined '/' fixed ++ ['/']) := by
  induction fixed with
  | nil => exact unmarked_slash
  | cons name rest ih =>
      have hname := unmarked_name (h name List.mem_cons_self).2.2
      cases rest with
      | nil => exact hname
      | cons next others =>
          have hrest := ih fun other hother => h other (List.mem_cons_of_mem _ hother)
          have hjoined : Text.joined '/' (name :: next :: others) ++ ['/'] =
              (name ++ ['/']) ++ (Text.joined '/' (next :: others) ++ ['/']) := by
            simp [Text.joined]
          rw [hjoined]
          exact hname.append hrest

theorem replaceFrom_skip (part new s rest : List Char) :
    Text.replaceFrom part new s.length (s ++ rest) = Text.replaceFrom part new 0 rest := by
  induction s with
  | nil => rfl
  | cons c s ih => exact ih

theorem replaceFrom_unmarked {s : List Char} (h : Unmarked s) (new rest : List Char) :
    Text.replaceFrom projectMark new 0 (s ++ rest) =
      s ++ Text.replaceFrom projectMark new 0 rest := by
  induction s with
  | nil => rfl
  | cons c s ih =>
      have hhere : projectMark.isPrefixOf (c :: (s ++ rest)) = false := by
        rw [Bool.eq_false_iff, Ne, List.isPrefixOf_iff_prefix]
        exact h [] (c :: s) rest rfl (List.cons_ne_nil _ _)
      have hrest : Unmarked s := by
        intro early late more heq hne
        exact h (c :: early) late more (congrArg (List.cons c) heq) hne
      rw [List.cons_append, Text.replaceFrom, hhere, List.cons_append, <- ih hrest]
      rfl

theorem replaceFrom_mark (new rest : List Char) :
    Text.replaceFrom projectMark new 0 (projectMark ++ rest) =
      new ++ Text.replaceFrom projectMark new 0 rest := by
  have hstart : Text.replaceFrom projectMark new 0 (projectMark ++ rest) =
      new ++ Text.replaceFrom projectMark new projectMark.tail.length
        (projectMark.tail ++ rest) := rfl
  rw [hstart, replaceFrom_skip]

theorem publishedRoot_templateWith {engine : EngineSettings} {fixed : List (List Char)}
    (hfixed : Fixed fixed) (htemplate : engine.publishedRootTemplate = templateWith fixed)
    (id : String) : (engine.publishedRoot id).toList =
      '/' :: Text.joined '/' fixed ++ '/' :: id.toList ++ ['/'] := by
  have hfront : Unmarked ('/' :: (Text.joined '/' fixed ++ ['/'])) :=
    unmarked_slash.append (unmarked_fixed hfixed)
  have hmark : Text.replaceFrom projectMark id.toList 0 (projectMark ++ ['/']) =
      id.toList ++ ['/'] := replaceFrom_mark id.toList ['/']
  have htext : engine.publishedRootTemplate.toList =
      ('/' :: (Text.joined '/' fixed ++ ['/'])) ++ (projectMark ++ ['/']) := by
    rw [htemplate, templateWith, String.toList_ofList]
    simp
  rw [publishedRoot, String.toList_ofList, htext, Text.replaceAll,
    if_neg (by decide), replaceFrom_unmarked hfront, hmark]
  simp

theorem namesIn_joined {fixed : List (List Char)} (h : Fixed fixed) :
    RemotePath.namesIn (Text.joined '/' fixed) = fixed :=
  RemotePath.namesIn_joined fun name hname => ⟨(h name hname).1, (h name hname).2.1⟩

theorem names_publishedRoot {engine : EngineSettings} {fixed : List (List Char)}
    (hfixed : Fixed fixed) (htemplate : engine.publishedRootTemplate = templateWith fixed)
    (id : String) :
    RemotePath.names (engine.publishedRoot id) = fixed ++ RemotePath.names id := by
  rw [RemotePath.names, publishedRoot_templateWith hfixed htemplate, List.append_assoc,
    List.cons_append, RemotePath.namesIn_slash, List.cons_append,
    RemotePath.namesIn_append_slash, RemotePath.namesIn_append_slash, namesIn_joined hfixed]
  exact congrArg _ (List.append_nil _)

end EngineSettings

/-!
## Published copies at home
-/

/-- What is listed in a directory of a system has the names of the directory and one
more. -/
def Storage.Nested (storage : Storage (StateM (Recorded ω))) (system : String) : Prop :=
  forall path world entries after,
    (storage.list system path).run.run world = (.ok entries, after) ->
    forall entry, entry ∈ entries -> exists name,
      RemotePath.names entry.path = RemotePath.names path ++ [name]

theorem Storage.Nested.leads {storage : Storage (StateM (Recorded ω))} {system : String}
    (h : storage.Nested system) (directory : List (List Char)) :
    storage.Leads system (fun path => directory <+: RemotePath.names path)
      (RemotePath.Below directory) where
  listed := by
    intro path world entries after hpath hlist entry hentry
    rcases hpath with ⟨rest, hrest⟩
    rcases h path world entries after hlist entry hentry with ⟨name, hname⟩
    refine ⟨rest ++ [name], by simp, ?_⟩
    rw [hname, ← hrest, List.append_assoc]
  opened := by
    intro path hpath
    rcases hpath with ⟨rest, _, hnames⟩
    exact ⟨rest, hnames.symm⟩

/-- Every published copy that is cached lies below the directory of the external project
that is known for its system. -/
def Caches.CopiesBelow (caches : Caches) (fixed : List (List Char)) : Prop :=
  forall system index, caches.published.get? system = some (some index) ->
    exists id, caches.externalIds.get? system = some (some id) ∧
      index.Within (RemotePath.Below (fixed ++ RemotePath.names id))

/-- Every published copy that is cached lies below the published root of the external
project that is known for its system. -/
def Caches.CopiesBelowRoots (caches : Caches) (engine : EngineSettings) : Prop :=
  forall system index, caches.published.get? system = some (some index) ->
    exists id, caches.externalIds.get? system = some (some id) ∧
      index.Within (RemotePath.Below (RemotePath.names (engine.publishedRoot id)))

theorem Caches.copiesBelow_iff_copiesBelowRoots {caches : Caches} {engine : EngineSettings}
    {fixed : List (List Char)} (hfixed : EngineSettings.Fixed fixed)
    (htemplate : engine.publishedRootTemplate = EngineSettings.templateWith fixed) :
    caches.CopiesBelow fixed <-> caches.CopiesBelowRoots engine := by
  unfold CopiesBelow CopiesBelowRoots
  simp only [EngineSettings.names_publishedRoot hfixed htemplate]

/-- Every external project that is known was told by remote storage. -/
def Caches.IdsTold (caches : Caches) (exchanges : List Exchange) : Prop :=
  forall system id, caches.externalIds.get? system = some id ->
    .externalId system (.ok id) ∈ exchanges

section Moves

variable {surveyor : Surveyor (StateM (Recorded ω))} {start after : Caches × Recorded ω}
  {piece : Option RemoteWork} {work : List RemoteWork} {fixed : List (List Char)}

theorem Caches.CopiesBelowRoots.of_externalIds {caches : Caches} {engine : EngineSettings}
    (h : caches.CopiesBelowRoots engine) {externalIds : OrderedMap String (Option String)}
    (hkept : forall system id, caches.externalIds.get? system = some id ->
      externalIds.get? system = some id) :
    Caches.CopiesBelowRoots { caches with externalIds } engine := by
  intro system index hindex
  rcases h system index hindex with ⟨id, hid, hwithin⟩
  exact ⟨id, hkept system _ hid, hwithin⟩

theorem Surveyor.Move.copiesBelowRoots (hrecords : surveyor.storage.Records)
    (hnested : surveyor.storage.Nested surveyor.engine.publishedSystem)
    (h : surveyor.Move surveyor.build start piece after)
    (hstart : start.1.CopiesBelowRoots surveyor.engine) :
    after.1.CopiesBelowRoots surveyor.engine := by
  have hkept := h.externalIds.kept
  cases h with
  | answered hproject hunknown hcall => exact hstart.of_externalIds hkept
  | refused | surveyed | described | listed => exact hstart
  | uncopied hunknown =>
      intro system index hindex
      dsimp only at hindex
      rw [OrderedMap.get?_insert] at hindex
      split at hindex
      · cases hindex
      · exact hstart system index hindex
  | @copied caches world last system id index hproject hunknown hlinked hbuild =>
      rcases Surveyor.indexesListed_index hrecords (hnested.leads _) (List.prefix_refl _) world with
        ⟨_, _, _, hwithin⟩
      have hindex : (surveyor.index surveyor.engine.publishedSystem
          (surveyor.engine.publishedRoot id)).run world = (index, last) := hbuild
      rw [hindex] at hwithin
      intro other found hfound
      dsimp only at hfound
      rw [OrderedMap.get?_insert] at hfound
      split at hfound
      · rename_i heq
        cases hfound
        rw [heq]
        exact ⟨id, hlinked, hwithin⟩
      · exact hstart other found hfound

theorem Surveyor.Move.idsTold (hrecords : surveyor.storage.Records)
    (h : surveyor.Move surveyor.build start piece after)
    (hstart : start.1.IdsTold start.2.exchanges) :
    after.1.IdsTold after.2.exchanges := by
  rcases h.exchanges hrecords with ⟨calls, hexchanges, _⟩
  have hearlier : forall system id, start.1.externalIds.get? system = some id ->
      .externalId system (.ok id) ∈ after.2.exchanges := by
    intro system id hid
    rw [hexchanges]
    exact List.mem_append_right _ (hstart system id hid)
  cases h with
  | answered hproject hunknown hcall =>
      intro system id hid
      dsimp only at hid
      rw [OrderedMap.get?_insert] at hid
      split at hid
      · rename_i heq
        cases hid
        rw [exchanges_of_externalId hrecords hcall, heq]
        exact List.mem_cons_self
      · exact hearlier system id hid
  | _ => exact hearlier

/-- However long a check goes on, what it has in its caches is in its place and was told by
remote storage. -/
theorem Surveyor.Moves.copiesBelowRoots (hrecords : surveyor.storage.Records)
    (hnested : surveyor.storage.Nested surveyor.engine.publishedSystem)
    (h : surveyor.Moves surveyor.build start work after)
    (hstart : start.1.CopiesBelowRoots surveyor.engine)
    (htold : start.1.IdsTold start.2.exchanges) :
    after.1.CopiesBelowRoots surveyor.engine ∧ after.1.IdsTold after.2.exchanges := by
  induction h with
  | nil start => exact ⟨hstart, htold⟩
  | cons first others ih =>
      exact ih (first.copiesBelowRoots hrecords hnested hstart) (first.idsTold hrecords htold)

theorem Surveyor.Moves.copiesBelow (hrecords : surveyor.storage.Records)
    (hfixed : EngineSettings.Fixed fixed)
    (htemplate : surveyor.engine.publishedRootTemplate = EngineSettings.templateWith fixed)
    (hnested : surveyor.storage.Nested surveyor.engine.publishedSystem)
    (h : surveyor.Moves surveyor.build start work after) (hstart : start.1.CopiesBelow fixed)
    (htold : start.1.IdsTold start.2.exchanges) :
    after.1.CopiesBelow fixed ∧ after.1.IdsTold after.2.exchanges := by
  rw [Caches.copiesBelow_iff_copiesBelowRoots hfixed htemplate] at hstart ⊢
  exact h.copiesBelowRoots hrecords hnested hstart htold

end Moves

/-!
## Verdicts
-/

section Verdicts

variable {surveyor : Surveyor (StateM (Recorded ω))} {fixed : List (List Char)}

theorem of_judge_relocated {bench after : Bench} {world final : Recorded ω}
    {target place : String}
    (hrun : surveyor.judge.amid bench world =
      ((.ok (.relocated target place), after), final)) :
    exists system index path, bench.location.currentSystem = some system ∧
      after.caches.published.get? system = some (some index) ∧
      FileIndex.Filed index.entries path ∧ target = surveyor.engine.publishedSystem ∧
      place = RemotePath.absolute path ∧
      after.location.currentSystem = some target ∧ after.location.currentPath = some place := by
  unfold Surveyor.judge at hrun
  rw [Step.amid_location_bind] at hrun
  cases hsystem : bench.location.currentSystem with
  | none =>
      rw [hsystem] at hrun
      cases hrun
  | some system =>
      rw [hsystem] at hrun
      dsimp only at hrun
      split at hrun
      · cases hrun
      · rcases Step.of_amid_bind_ok hrun with ⟨copy, middle, between, hrecall, hplace⟩
        rcases Surveyor.recallPublished_cases hrecall with ⟨_, _, _, hlocation, hok⟩
        cases hfound : copy.bind fun index => bench.location.currentPath.bind index.resolve? with
        | none =>
            rw [hfound] at hplace
            cases hplace
        | some path =>
            rw [hfound] at hplace
            cases hplace
            rcases Option.bind_eq_some_iff.mp hfound with ⟨index, rfl, hresolved⟩
            rcases Option.bind_eq_some_iff.mp hresolved with ⟨name, _, hname⟩
            exact ⟨system, index, path, rfl, (hok _ rfl).1,
              FileIndex.filed_of_resolve? hname, rfl, rfl, rfl, rfl⟩

end Verdicts

/-- Treats items one after the other, each with what repairs may know and at its time.
What is cached goes on from one item to the next. -/
def Surveyor.treatEach {m : Type -> Type} [Monad m] (surveyor : Surveyor m) :
    List (Provenance × Tracked × Instant) -> Caches -> m Caches
  | [], caches => return caches
  | (provenance, item, time) :: rest, caches => do
      let out <- surveyor.treat provenance item time caches
      surveyor.treatEach rest out.2.caches

section Verdicts

variable {surveyor : Surveyor (StateM (Recorded ω))} {fixed : List (List Char)}

theorem Surveyor.moves_treatEach {items : List (Provenance × Tracked × Instant)}
    {caches last : Caches} {world final : Recorded ω}
    (h : (surveyor.treatEach items caches).run world = (last, final)) :
    exists work, surveyor.Moves surveyor.build (caches, world) work (last, final) := by
  induction items generalizing caches world with
  | nil =>
      cases h
      exact ⟨[], .nil _⟩
  | cons item rest ih =>
      rcases item with ⟨provenance, item, time⟩
      rcases htreat : (surveyor.treat provenance item time caches).run world with
        ⟨⟨result, bench⟩, between⟩
      rcases works_pass surveyor surveyor.build item _ world result bench between htreat with
        ⟨first, hfirst, _, _⟩
      unfold treatEach at h
      rw [View.run_bind_of_eq htreat] at h
      rcases ih h with ⟨others, hothers⟩
      exact ⟨first ++ others, hfirst.trans hothers⟩

/-- Whatever was treated before in a check, a relocation leads to a place below the
directory of the external project that remote storage told for the item's system: the
names of the template, those of the id, and at least one more.  So it leads to no other
project's directory, when their ids have as many names. -/
theorem relocated_below_root (hrecords : surveyor.storage.Records)
    (hfixed : EngineSettings.Fixed fixed)
    (htemplate : surveyor.engine.publishedRootTemplate = EngineSettings.templateWith fixed)
    (hnested : surveyor.storage.Nested surveyor.engine.publishedSystem)
    {known : OrderedMap String (Option String)} {world between final : Recorded ω}
    (htold : forall system id, known.get? system = some id ->
      .externalId system (.ok id) ∈ world.exchanges)
    {items : List (Provenance × Tracked × Instant)} {caches : Caches}
    (htreated : (surveyor.treatEach items (Sweep.start known).caches).run world =
      (caches, between))
    {loc : Location} {after : Bench} {target place : String}
    (hrun : surveyor.judge.amid { location := loc, caches } between =
      ((.ok (.relocated target place), after), final)) :
    exists system id, loc.currentSystem = some system ∧
      .externalId system (.ok (some id)) ∈ final.exchanges ∧
      target = surveyor.engine.publishedSystem ∧
      after.location.currentSystem = some target ∧ after.location.currentPath = some place ∧
      RemotePath.Below (fixed ++ RemotePath.names id) place ∧
      forall other, (RemotePath.names other).length = (RemotePath.names id).length ->
        RemotePath.Below (fixed ++ RemotePath.names other) place ->
          RemotePath.names other = RemotePath.names id := by
  rcases surveyor.moves_treatEach htreated with ⟨work, hworked⟩
  rcases surveyor.works_judge surveyor.build _ between _ after final hrun with
    ⟨more, hjudged, _, _⟩
  have hstart : Caches.CopiesBelow (Sweep.start known).caches fixed :=
    fun _ _ hindex => nomatch hindex
  have htold' : Caches.IdsTold (Sweep.start known).caches world.exchanges := htold
  have hmoves := hworked.trans hjudged
  rcases hmoves.copiesBelow hrecords hfixed htemplate hnested hstart htold' with ⟨hbelow, hall⟩
  rcases of_judge_relocated hrun with
    ⟨system, index, path, hsystem, hindex, hfiled, htarget, rfl, hplace, hfile⟩
  rcases hbelow system index hindex with ⟨id, hid, hwithin⟩
  rcases hwithin path hfiled with ⟨full, hbelow, rfl⟩
  have hhome := hbelow.of_relative
  exact ⟨system, id, hsystem, hall system _ hid, htarget, hplace, hfile, hhome,
    fun other hlength hother => hhome.unique hother hlength⟩

end Verdicts

namespace Sample

/-- The published copy of one project with one file, and every system linked to a project
of the same id. -/
def publication (id : String) : Storage Id where
  list := fun system path =>
    if RemotePath.names path = ["published-data".toList] then
      .ok [{ name := "PRJ-9", path := "published-data/PRJ-9", kind := .directory, size := none }]
    else if RemotePath.names path = ["published-data".toList, "PRJ-9".toList] then
      .ok [{ name := "x.jpg", path := "published-data/PRJ-9/x.jpg", kind := .file, size := none }]
    else .error (.notListable system path)
  stat := fun system path => .error (.notListable system path)
  externalId := fun _ => .ok (some id)

def publicationSurveyor (id : String) : Surveyor (StateM (Recorded Unit)) where
  storage := (Storage.answering (publication id)).recorded
  engine := .standard
  depth := 4

def unpublished (id : String) : Caches × Recorded Unit :=
  ((publicationSurveyor id).treatEach
    [(provenance, .asset (image 1 (placed "project-abc" "/y.jpg")), time)]
    (Sweep.start .empty).caches).run { exchanges := [], inner := () }

def publicationVerdict (id : String) : (Except StorageError Verdict × Bench) × Recorded Unit :=
  (publicationSurveyor id).judge.amid
    { location := placed "project-abc" "/old/x.jpg", caches := (unpublished id).1 }
    (unpublished id).2

theorem reader_nested (id : String) :
    (publicationSurveyor id).storage.Nested (publicationSurveyor id).engine.publishedSystem := by
  intro path world entries after hlist entry hentry
  have hanswer : (publication id).list (publicationSurveyor id).engine.publishedSystem path =
      .ok entries := congrArg Prod.fst hlist
  dsimp only [publication] at hanswer
  split at hanswer
  · rename_i hnames
    cases hanswer
    rw [List.mem_singleton.mp hentry, hnames]
    exact ⟨"PRJ-9".toList, by decide⟩
  · split at hanswer
    · rename_i hnames
      cases hanswer
      rw [List.mem_singleton.mp hentry, hnames]
      exact ⟨"x.jpg".toList, by decide⟩
    · cases hanswer

theorem published_fixed : EngineSettings.Fixed ["published-data".toList] := by
  intro name hname
  rw [List.mem_singleton.mp hname]
  decide

end Sample

/-- An item moves to a file below the directory of its own project. -/
theorem relocated_below_root_sample :
    exists after final id,
      Sample.publicationVerdict "PRJ-9" = ((.ok (.relocated "designsafe.storage.published"
        "/published-data/PRJ-9/x.jpg"), after), final) ∧
      .externalId "project-abc" (.ok (some id)) ∈ final.exchanges ∧
      RemotePath.Below ("published-data".toList :: RemotePath.names id)
        "/published-data/PRJ-9/x.jpg" := by
  have hresult : (Sample.publicationVerdict "PRJ-9").1.1 =
      .ok (.relocated "designsafe.storage.published" "/published-data/PRJ-9/x.jpg") := by
    decide +kernel
  rcases hrun : Sample.publicationVerdict "PRJ-9" with ⟨⟨result, after⟩, final⟩
  rw [hrun] at hresult
  cases hresult
  let world : Recorded Unit := { exchanges := [], inner := () }
  have hrecords : (Sample.publicationSurveyor "PRJ-9").storage.Records := Storage.recorded_records _
  have htemplate : (Sample.publicationSurveyor "PRJ-9").engine.publishedRootTemplate =
      EngineSettings.templateWith ["published-data".toList] := by
    decide +kernel
  have htold : forall system id, OrderedMap.empty.get? system = some id ->
      Exchange.externalId system (.ok id) ∈ world.exchanges :=
    fun _ _ h => nomatch h
  rcases relocated_below_root hrecords Sample.published_fixed htemplate
    (Sample.reader_nested "PRJ-9") htold (show _ = Sample.unpublished "PRJ-9" from rfl) hrun with
    ⟨system, id, hsystem, htold, _, _, _, hbelow, _⟩
  cases hsystem
  exact ⟨after, final, id, rfl, htold, hbelow⟩

/-- The id that remote storage tells for a system may have no name in it.  The whole
published area is then taken for the copy of that project, and an item moves to the file
of another one. -/
theorem blank_id_astray :
    (Sample.publicationSurveyor "").engine.publishedRootTemplate =
        EngineSettings.templateWith ["published-data".toList] ∧
      EngineSettings.Fixed ["published-data".toList] ∧
      (Sample.publicationSurveyor "").storage.Nested
        (Sample.publicationSurveyor "").engine.publishedSystem ∧
      (forall system world,
        (((Sample.publicationSurveyor "").storage.externalId system).run.run world).1 =
          .ok (some "")) ∧
      RemotePath.names "" = [] ∧
      (Sample.publicationVerdict "").1.1 = .ok (.relocated "designsafe.storage.published"
        "/published-data/PRJ-9/x.jpg") ∧
      RemotePath.Below ("published-data".toList :: RemotePath.names "PRJ-9")
        "/published-data/PRJ-9/x.jpg" := by
  refine ⟨by decide +kernel, Sample.published_fixed, Sample.reader_nested "",
    fun _ _ => rfl, by decide, by decide +kernel, ?_⟩
  exact ⟨["x.jpg".toList], by decide, by decide +kernel⟩

end Whereabouts
