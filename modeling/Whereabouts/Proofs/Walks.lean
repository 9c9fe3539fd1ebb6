import Whereabouts.Proofs.MemoryWorld
import Whereabouts.Proofs.Exchanges
import Whereabouts.Proofs.FileIndex

/-!
# Walks through directories

The index of a directory is what a walk through everything below it comes across,
depth first: the files under their names, and how many directories were opened,
found barred or left out.  When directories do not lead back to themselves the
walk ends, and so does the survey that builds the index.
-/

namespace Whereabouts

variable {ω : Type}

/-!
## Sights
-/

/-- What a walk comes across: a file, a directory of deleted files, which is left
out, a directory that cannot be listed, or one that is listed before what is below
it. -/
inductive Sight where
  | file (entry : Entry)
  | trash (entry : Entry)
  | barred (path : String)
  | opened (path : String)
  deriving DecidableEq

namespace Sight

/-- The name and the path under which a file is kept. -/
def filed? : Sight -> Option (String × String)
  | file entry => some (FileIndex.nameOf entry, RemotePath.relative entry.path)
  | _ => none

/-- The directory that was asked for. -/
def asked? : Sight -> Option String
  | barred path => some path
  | opened path => some path
  | _ => none

def isTrash : Sight -> Bool
  | trash _ => true
  | _ => false

def isBarred : Sight -> Bool
  | barred _ => true
  | _ => false

def isOpened : Sight -> Bool
  | opened _ => true
  | _ => false

end Sight

/-- The paths of the files of one name, in the order in which they are met. -/
def pathsNamed (name : String) (sights : List Sight) : List String :=
  ((sights.filterMap Sight.filed?).filter fun file => file.1 = name).map Prod.snd

theorem pathsNamed_file (name : String) (entry : Entry) (sights : List Sight) :
    pathsNamed name (.file entry :: sights) =
      if name = FileIndex.nameOf entry then
        RemotePath.relative entry.path :: pathsNamed name sights
      else pathsNamed name sights := by
  have hfiled : Sight.filed? (.file entry) =
      some (FileIndex.nameOf entry, RemotePath.relative entry.path) := rfl
  unfold pathsNamed
  rw [List.filterMap_cons_some hfiled]
  by_cases hname : name = FileIndex.nameOf entry
  · simp [hname]
  · simp [hname, Ne.symm hname]

theorem pathsNamed_of_filed?_eq_none {sight : Sight} (hfiled : sight.filed? = none)
    (name : String) (sights : List Sight) :
    pathsNamed name (sight :: sights) = pathsNamed name sights := by
  rw [pathsNamed, List.filterMap_cons_none hfiled, pathsNamed]

/-- What a survey counts of what is met. -/
def tally (sights : List Sight) : IndexCounts where
  directories := sights.countP Sight.isOpened
  files := (sights.filterMap Sight.filed?).length
  skippedSubtrees := sights.countP Sight.isBarred
  skippedTrash := sights.countP Sight.isTrash

theorem tally_append (a b : List Sight) : tally (a ++ b) = (tally a).add (tally b) := by
  simp [tally, IndexCounts.add]

/-!
## Walks
-/

def Storage.listing (answers : Storage Id) (system path : String) :
    Except StorageError (List Entry) :=
  (answers.list system path).run.run

/-- A walk through the entries of a listing and all that is below them. -/
inductive Walk (answers : Storage Id) (engine : EngineSettings) (system : String) :
    List Entry -> List Sight -> Prop
  | nil : Walk answers engine system [] []
  | file {entry : Entry} {rest : List Entry} {sights : List Sight}
      (hkind : entry.isDirectory = false) (others : Walk answers engine system rest sights) :
      Walk answers engine system (entry :: rest) (.file entry :: sights)
  | trash {entry : Entry} {rest : List Entry} {sights : List Sight}
      (hkind : entry.isDirectory = true) (htrash : engine.isTrash entry.path = true)
      (others : Walk answers engine system rest sights) :
      Walk answers engine system (entry :: rest) (.trash entry :: sights)
  | barred {entry : Entry} {rest : List Entry} {sights : List Sight} {failure : StorageError}
      (hkind : entry.isDirectory = true) (htrash : engine.isTrash entry.path = false)
      (hlist : answers.listing system entry.path = .error failure)
      (others : Walk answers engine system rest sights) :
      Walk answers engine system (entry :: rest) (.barred entry.path :: sights)
  | opened {entry : Entry} {rest children : List Entry} {below sights : List Sight}
      (hkind : entry.isDirectory = true) (htrash : engine.isTrash entry.path = false)
      (hlist : answers.listing system entry.path = .ok children)
      (inner : Walk answers engine system children below)
      (others : Walk answers engine system rest sights) :
      Walk answers engine system (entry :: rest) (.opened entry.path :: (below ++ sights))

/-- A walk that starts at a directory, whatever the directory is called. -/
inductive Tour (answers : Storage Id) (engine : EngineSettings) (system root : String) :
    List Sight -> Prop
  | barred {failure : StorageError} (hlist : answers.listing system root = .error failure) :
      Tour answers engine system root [.barred root]
  | opened {entries : List Entry} {sights : List Sight}
      (hlist : answers.listing system root = .ok entries)
      (inner : Walk answers engine system entries sights) :
      Tour answers engine system root (.opened root :: sights)

/-- A directory has another one among its entries that is not left out. -/
def LeadsTo (answers : Storage Id) (engine : EngineSettings) (system child parent : String) :
    Prop :=
  exists entries entry, answers.listing system parent = .ok entries ∧ entry ∈ entries ∧
    entry.isDirectory = true ∧ engine.isTrash entry.path = false ∧ child = entry.path

variable {answers : Storage Id} {engine : EngineSettings} {system root : String}
  {entries : List Entry} {sights : List Sight}

theorem Walk.unique (h : Walk answers engine system entries sights) {other : List Sight}
    (h' : Walk answers engine system entries other) : other = sights := by
  induction h generalizing other with
  | nil =>
      cases h'
      rfl
  | file hkind others ih =>
      cases h' with
      | file _ others' => rw [ih others']
      | trash hkind' | barred hkind' | opened hkind' =>
          rw [hkind] at hkind'
          cases hkind'
  | trash hkind htrash others ih =>
      cases h' with
      | trash _ _ others' => rw [ih others']
      | file hkind' =>
          rw [hkind] at hkind'
          cases hkind'
      | barred _ htrash' | opened _ htrash' =>
          rw [htrash] at htrash'
          cases htrash'
  | barred hkind htrash hlist others ih =>
      cases h' with
      | barred _ _ _ others' => rw [ih others']
      | file hkind' =>
          rw [hkind] at hkind'
          cases hkind'
      | trash _ htrash' =>
          rw [htrash] at htrash'
          cases htrash'
      | opened _ _ hlist' =>
          rw [hlist] at hlist'
          cases hlist'
  | opened hkind htrash hlist inner others ihInner ih =>
      cases h' with
      | opened _ _ hlist' inner' others' =>
          rw [hlist] at hlist'
          cases hlist'
          rw [ihInner inner', ih others']
      | file hkind' =>
          rw [hkind] at hkind'
          cases hkind'
      | trash _ htrash' =>
          rw [htrash] at htrash'
          cases htrash'
      | barred _ _ hlist' =>
          rw [hlist] at hlist'
          cases hlist'

theorem Tour.unique (h : Tour answers engine system root sights) {other : List Sight}
    (h' : Tour answers engine system root other) : other = sights := by
  cases h with
  | barred hlist =>
      cases h' with
      | barred => rfl
      | opened hlist' =>
          rw [hlist] at hlist'
          cases hlist'
  | opened hlist inner =>
      cases h' with
      | barred hlist' =>
          rw [hlist] at hlist'
          cases hlist'
      | opened hlist' inner' =>
          rw [hlist] at hlist'
          cases hlist'
          rw [inner.unique inner']

/-- Below a directory from which no way goes on forever every listing can be walked
through. -/
theorem exists_walk (hfounded : Acc (LeadsTo answers engine system) root)
    (hlist : answers.listing system root = .ok entries) :
    exists sights, Walk answers engine system entries sights := by
  -- On the ways that start at the directory; below that, on the entries that are left.
  induction hfounded generalizing entries with
  | intro directory _ ih =>
      have hrest : forall rest : List Entry, rest ⊆ entries ->
          exists sights, Walk answers engine system rest sights := by
        intro rest
        induction rest with
        | nil => exact fun _ => ⟨[], .nil⟩
        | cons entry rest ihRest =>
            intro hsub
            rcases ihRest (fun other hother => hsub (List.mem_cons_of_mem _ hother)) with
              ⟨sights, hsights⟩
            cases hkind : entry.isDirectory with
            | false => exact ⟨_, .file hkind hsights⟩
            | true =>
                cases htrash : engine.isTrash entry.path with
                | true => exact ⟨_, .trash hkind htrash hsights⟩
                | false =>
                    cases hanswer : answers.listing system entry.path with
                    | error failure => exact ⟨_, .barred hkind htrash hanswer hsights⟩
                    | ok children =>
                        have hleads : LeadsTo answers engine system entry.path directory :=
                          ⟨entries, entry, hlist, hsub List.mem_cons_self, hkind, htrash, rfl⟩
                        rcases ih entry.path hleads hanswer with ⟨below, hbelow⟩
                        exact ⟨_, .opened hkind htrash hanswer hbelow hsights⟩
      exact hrest entries (List.Subset.refl _)

theorem exists_tour (hfounded : Acc (LeadsTo answers engine system) root) :
    exists sights, Tour answers engine system root sights := by
  cases hlist : answers.listing system root with
  | error failure => exact ⟨_, .barred hlist⟩
  | ok entries =>
      rcases exists_walk hfounded hlist with ⟨sights, hsights⟩
      exact ⟨_, .opened hlist hsights⟩

/-!
## What an index notes
-/

namespace FileIndex

def note (index : FileIndex) : Sight -> FileIndex
  | .file entry => index.insertFile entry
  | .trash _ => index.countTrash
  | .barred _ => index.countSkipped
  | .opened _ => index.countDirectory

variable {index : FileIndex}

theorem merge_note (index other : FileIndex) (sight : Sight) :
    index.merge (other.note sight) = (index.merge other).note sight := by
  cases sight with
  | file entry => exact merge_insertFile index other entry
  | trash entry => exact merge_countTrash index other
  | barred path => exact merge_countSkipped index other
  | opened path => exact merge_countDirectory index other

theorem merge_foldl_note (index other : FileIndex) (sights : List Sight) :
    index.merge (sights.foldl note other) = sights.foldl note (index.merge other) := by
  induction sights generalizing other with
  | nil => rfl
  | cons sight rest ih => rw [List.foldl_cons, ih, merge_note, List.foldl_cons]

theorem system_foldl_note (index : FileIndex) (sights : List Sight) :
    (sights.foldl note index).system = index.system := by
  induction sights generalizing index with
  | nil => rfl
  | cons sight rest ih =>
      rw [List.foldl_cons, ih]
      cases sight <;> rfl

theorem get?_foldl_note (index : FileIndex) (sights : List Sight) (name : String) :
    (sights.foldl note index).get? name =
      if pathsNamed name sights = [] then index.get? name
      else some ((index.get? name).getD [] ++ pathsNamed name sights) := by
  induction sights generalizing index with
  | nil => rfl
  | cons sight rest ih =>
      rw [List.foldl_cons, ih]
      cases sight with
      | trash entry => rw [pathsNamed_of_filed?_eq_none rfl, note, get?_countTrash]
      | barred path => rw [pathsNamed_of_filed?_eq_none rfl, note, get?_countSkipped]
      | opened path => rw [pathsNamed_of_filed?_eq_none rfl, note, get?_countDirectory]
      | file entry =>
          rw [pathsNamed_file, note, get?_insertFile]
          by_cases hname : name = nameOf entry
          · simp [hname]
          · simp [hname]

theorem stats_note (index : FileIndex) (sight : Sight) :
    (index.note sight).stats = index.stats.add (tally [sight]) := by
  cases sight <;> rfl

theorem stats_foldl_note (index : FileIndex) (sights : List Sight) :
    (sights.foldl note index).stats = index.stats.add (tally sights) := by
  induction sights generalizing index with
  | nil => rfl
  | cons sight rest ih =>
      rw [List.foldl_cons, ih, stats_note, IndexCounts.add_assoc, <- tally_append,
        List.singleton_append]

/-- An index of exactly what is met on a tour. -/
structure Covers (index : FileIndex) (system root : String) (sights : List Sight) : Prop where
  of_system : index.system = system
  paths : forall name, index.get? name =
    if pathsNamed name sights = [] then none else some (pathsNamed name sights)
  files : index.stats.files = (sights.filterMap Sight.filed?).length
  directories : index.stats.directories = sights.countP Sight.isOpened
  /-- The first sight is the root itself. -/
  skippedSubtrees : index.stats.skippedSubtrees = sights.tail.countP Sight.isBarred
  skippedTrash : index.stats.skippedTrash = sights.countP Sight.isTrash
  /-- There is nothing in the index of a root that cannot be listed. -/
  empty : sights = [.barred root] -> index = FileIndex.empty system

theorem covers_empty (system root : String) :
    (FileIndex.empty system).Covers system root [.barred root] :=
  ⟨rfl, fun _ => rfl, rfl, rfl, rfl, rfl, fun _ => rfl⟩

theorem covers_foldl_note (system root : String) (sights : List Sight) :
    (sights.foldl note (FileIndex.empty system).countDirectory).Covers system root
      (.opened root :: sights) := by
  have hstats : (sights.foldl note (FileIndex.empty system).countDirectory).stats =
      tally (.opened root :: sights) := by
    rw [stats_foldl_note, <- List.singleton_append, tally_append]
    rfl
  refine ⟨system_foldl_note _ _, ?_, ?_, ?_, ?_, ?_, ?_⟩
  · intro name
    rw [get?_foldl_note, pathsNamed_of_filed?_eq_none rfl]
    rfl
  · rw [hstats, tally]
  · rw [hstats, tally]
  · rw [hstats, tally]
    rfl
  · rw [hstats, tally]
  · intro hbarred
    cases hbarred

end FileIndex

/-!
## Surveys
-/

def Tour.calls (answers : Storage Id) (system : String) (sights : List Sight) :
    List Exchange :=
  (sights.filterMap Sight.asked?).map fun path =>
    .list system path (answers.listing system path)

theorem Tour.calls_append (answers : Storage Id) (system : String) (a b : List Sight) :
    Tour.calls answers system (a ++ b) =
      Tour.calls answers system a ++ Tour.calls answers system b := by
  simp [calls, List.filterMap_append]

namespace Surveyor

variable {surveyor : Surveyor (StateM (Recorded ω))}

/-- How a survey goes on in the directories of a listing, when there are some levels
left. -/
def explorer {m : Type -> Type} [Monad m] (surveyor : Surveyor m) (system : String) :
    Nat -> Option (List Entry -> m FileIndex)
  | 0 => none
  | depth + 1 => some (surveyor.indexListing system depth)

theorem indexListing_eq_foldlM (surveyor : Surveyor (StateM (Recorded ω))) (system : String)
    (depth : Nat) (entries : List Entry) :
    surveyor.indexListing system depth entries =
      entries.foldlM (surveyor.visit system (surveyor.explorer system depth))
        (FileIndex.empty system).countDirectory := by
  cases depth <;> rfl

/-- In every world an operation gives an index that notes some sights, after the calls
that they took. -/
def Notes (answers : Storage Id) (system : String) (sights : List Sight) (index : FileIndex)
    (x : StateM (Recorded ω) FileIndex) : Prop :=
  forall world, (x.run world).1 = sights.foldl FileIndex.note index ∧
    (x.run world).2.exchanges =
      (Tour.calls answers system sights).reverse ++ world.exchanges

theorem notes_pure (answers : Storage Id) (system : String) (index : FileIndex) :
    Notes answers system [] index (pure index : StateM (Recorded ω) FileIndex) :=
  fun _ => ⟨rfl, rfl⟩

theorem Notes.bind {first rest : List Sight} {index : FileIndex}
    {x : StateM (Recorded ω) FileIndex} {f : FileIndex -> StateM (Recorded ω) FileIndex}
    (hx : Notes answers system first index x)
    (hf : Notes answers system rest (first.foldl FileIndex.note index)
      (f (first.foldl FileIndex.note index))) :
    Notes answers system (first ++ rest) index (x >>= f) := by
  intro world
  rcases hx world with ⟨hindex, hcalls⟩
  rcases hrun : x.run world with ⟨noted, between⟩
  rw [hrun] at hindex hcalls
  subst hindex
  rcases hf between with ⟨hindex', hcalls'⟩
  rw [View.run_bind_of_eq hrun]
  refine ⟨?_, ?_⟩
  · rw [hindex', List.foldl_append]
  · rw [hcalls', hcalls, Tour.calls_append, List.reverse_append, List.append_assoc]

theorem visit_of_file {m : Type -> Type} [Monad m] {surveyor : Surveyor m}
    {explore : Option (List Entry -> m FileIndex)} {index : FileIndex} {entry : Entry}
    (hkind : entry.isDirectory = false) :
    surveyor.visit system explore index entry = pure (index.insertFile entry) := by
  simp [visit, hkind]

theorem visit_of_trash {m : Type -> Type} [Monad m] {surveyor : Surveyor m}
    {explore : Option (List Entry -> m FileIndex)} {index : FileIndex} {entry : Entry}
    (hkind : entry.isDirectory = true) (htrash : surveyor.engine.isTrash entry.path = true) :
    surveyor.visit system explore index entry = pure index.countTrash := by
  simp [visit, hkind, htrash]

theorem list_cases (hfollows : surveyor.storage.Follows answers)
    (hrecords : surveyor.storage.Records) (system path : String) (world : Recorded ω) :
    exists after, (surveyor.storage.list system path).run.run world =
        (answers.listing system path, after) ∧
      after.exchanges =
        .list system path (answers.listing system path) :: world.exchanges := by
  have hanswer := hfollows.list system path world
  have hnoted := hrecords.list system path world
  rcases hcall : (surveyor.storage.list system path).run.run world with ⟨answer, after⟩
  rw [hcall] at hanswer hnoted
  change answer = answers.listing system path at hanswer
  subst hanswer
  exact ⟨after, rfl, hnoted⟩

theorem notes_visit_of_error (hfollows : surveyor.storage.Follows answers)
    (hrecords : surveyor.storage.Records)
    {explore : List Entry -> StateM (Recorded ω) FileIndex} {index : FileIndex}
    {entry : Entry} {failure : StorageError} (hkind : entry.isDirectory = true)
    (htrash : surveyor.engine.isTrash entry.path = false)
    (hlist : answers.listing system entry.path = .error failure) :
    Notes answers system [.barred entry.path] index
      (surveyor.visit system (some explore) index entry) := by
  intro world
  rcases list_cases hfollows hrecords system entry.path world with ⟨after, hcall, hnoted⟩
  rw [hlist] at hcall
  simp only [visit, hkind, htrash, Bool.not_true, Bool.false_eq_true, if_false]
  rw [View.run_bind_of_eq hcall]
  exact ⟨rfl, hnoted⟩

theorem notes_visit_of_ok (hfollows : surveyor.storage.Follows answers)
    (hrecords : surveyor.storage.Records)
    {explore : List Entry -> StateM (Recorded ω) FileIndex} {index : FileIndex}
    {entry : Entry} {children : List Entry} {below : List Sight}
    (hkind : entry.isDirectory = true) (htrash : surveyor.engine.isTrash entry.path = false)
    (hlist : answers.listing system entry.path = .ok children)
    (hexplore : Notes answers system below (FileIndex.empty system).countDirectory
      (explore children)) :
    Notes answers system (.opened entry.path :: below) index
      (surveyor.visit system (some explore) index entry) := by
  intro world
  rcases list_cases hfollows hrecords system entry.path world with ⟨between, hcall, hnoted⟩
  rw [hlist] at hcall
  rcases hexplore between with ⟨hindex, hcalls⟩
  rcases hrun : (explore children).run between with ⟨inner, after⟩
  rw [hrun] at hindex hcalls
  change inner = _ at hindex
  simp only [visit, hkind, htrash, Bool.not_true, Bool.false_eq_true, if_false]
  rw [View.run_bind_of_eq hcall]
  dsimp only
  rw [View.run_bind_of_eq hrun]
  constructor
  · change index.merge inner = _
    rw [hindex, FileIndex.merge_foldl_note, FileIndex.merge_countDirectory]
    rfl
  · change after.exchanges = _
    rw [hcalls, hnoted]
    simp [Tour.calls, Sight.asked?]

/-- With enough levels left a survey of a listing notes what a walk comes across. -/
theorem notes_foldlM (h : Walk answers engine system entries sights) :
    exists height, forall surveyor : Surveyor (StateM (Recorded ω)),
      surveyor.storage.Follows answers -> surveyor.storage.Records ->
      surveyor.engine = engine -> forall depth, height ≤ depth -> forall index,
        Notes answers system sights index
          (entries.foldlM (surveyor.visit system (surveyor.explorer system depth)) index) := by
  induction h with
  | nil => exact ⟨0, fun _ _ _ _ _ _ index => notes_pure answers system index⟩
  | file hkind others ih =>
      rcases ih with ⟨height, hrest⟩
      refine ⟨height, fun surveyor hfollows hrecords hengine depth hdepth index => ?_⟩
      rw [List.foldlM_cons, visit_of_file hkind]
      exact hrest surveyor hfollows hrecords hengine depth hdepth _
  | trash hkind htrash others ih =>
      rcases ih with ⟨height, hrest⟩
      refine ⟨height, fun surveyor hfollows hrecords hengine depth hdepth index => ?_⟩
      rw [← hengine] at htrash
      rw [List.foldlM_cons, visit_of_trash hkind htrash]
      exact hrest surveyor hfollows hrecords hengine depth hdepth _
  | barred hkind htrash hlist others ih =>
      rcases ih with ⟨height, hrest⟩
      refine ⟨height + 1, fun surveyor hfollows hrecords hengine depth hdepth index => ?_⟩
      rw [← hengine] at htrash
      rw [List.foldlM_cons]
      cases depth with
      | zero => cases hdepth
      | succ depth =>
          exact (notes_visit_of_error hfollows hrecords hkind htrash hlist).bind
            (hrest surveyor hfollows hrecords hengine (depth + 1) (Nat.le_of_succ_le hdepth) _)
  | opened hkind htrash hlist inner others ihInner ih =>
      rcases ihInner with ⟨heightInner, hinner⟩
      rcases ih with ⟨height, hrest⟩
      refine ⟨max (heightInner + 1) height,
        fun surveyor hfollows hrecords hengine depth hdepth index => ?_⟩
      rw [← hengine] at htrash
      rw [List.foldlM_cons]
      cases depth with
      | zero => omega
      | succ depth =>
          refine (notes_visit_of_ok hfollows hrecords hkind htrash hlist ?_).bind
            (hrest surveyor hfollows hrecords hengine (depth + 1) (by omega) _)
          rw [indexListing_eq_foldlM]
          exact hinner surveyor hfollows hrecords hengine depth (by omega) _

end Surveyor

theorem Storage.Follows.recorded {remote : Storage (StateM ω)} (h : remote.Follows answers) :
    remote.recorded.Follows answers where
  list := fun system path world => h.list system path world.inner
  stat := fun system path world => h.stat system path world.inner
  externalId := fun system world => h.externalId system world.inner

theorem Tour.surveyed {remote : Storage (StateM ω)} (hfollows : remote.Follows answers)
    (h : Tour answers engine system root sights) :
    exists height, forall depth, height ≤ depth -> forall world : Recorded ω,
      exists index after,
        (Surveyor.index { storage := remote.recorded, engine, depth } system root).run world =
          (index, after) ∧
        index.Covers system root sights ∧
        after.exchanges = (Tour.calls answers system sights).reverse ++ world.exchanges := by
  have hrecords := Storage.recorded_records remote
  cases h with
  | barred hlist =>
      refine ⟨0, fun depth _ world => ?_⟩
      let surveyor : Surveyor (StateM (Recorded ω)) :=
        { storage := remote.recorded, engine, depth }
      have hanswers : surveyor.storage.Follows answers := hfollows.recorded
      rcases Surveyor.list_cases hanswers hrecords system root world with
        ⟨after, hcall, hnoted⟩
      rw [hlist] at hcall
      exact ⟨_, after, View.run_bind_of_eq hcall, FileIndex.covers_empty system root, hnoted⟩
  | opened hlist inner =>
      rename_i entries below
      rcases Surveyor.notes_foldlM (ω := ω) inner with ⟨height, hnotes⟩
      refine ⟨height, fun depth hdepth world => ?_⟩
      let surveyor : Surveyor (StateM (Recorded ω)) :=
        { storage := remote.recorded, engine, depth }
      have hanswers : surveyor.storage.Follows answers := hfollows.recorded
      rcases Surveyor.list_cases hanswers hrecords system root world with
        ⟨between, hcall, hnoted⟩
      rw [hlist] at hcall
      rcases hnotes surveyor hanswers hrecords rfl depth hdepth
        (FileIndex.empty system).countDirectory between with ⟨hindex, hcalls⟩
      rw [← Surveyor.indexListing_eq_foldlM] at hindex hcalls
      rcases hrun : (surveyor.indexListing system depth entries).run between with
        ⟨index, after⟩
      rw [hrun] at hindex hcalls
      change index = _ at hindex
      refine ⟨index, after, (View.run_bind_of_eq hcall).trans hrun, ?_, ?_⟩
      · rw [hindex]
        exact FileIndex.covers_foldl_note system root below
      · rw [hcalls, hnoted]
        simp [Tour.calls, Sight.asked?, hlist]

/-- Where directories do not lead back to themselves there is one tour of a directory, and
every survey that may go down far enough builds the index of it, with one call for each
directory that the tour asks for. -/
theorem index_covers_tour {remote : Storage (StateM ω)} (hfollows : remote.Follows answers)
    (engine : EngineSettings) (system root : String)
    (hfounded : Acc (LeadsTo answers engine system) root) :
    exists sights, (forall other, Tour answers engine system root other <-> other = sights) ∧
      exists height, forall depth, height ≤ depth -> forall world : Recorded ω,
        exists index after,
          (Surveyor.index { storage := remote.recorded, engine, depth } system root).run world =
            (index, after) ∧
          index.Covers system root sights ∧
          after.exchanges = (Tour.calls answers system sights).reverse ++ world.exchanges := by
  rcases exists_tour hfounded with ⟨sights, htour⟩
  have hunique : forall other, Tour answers engine system root other <-> other = sights :=
    fun other => ⟨htour.unique, fun h => h ▸ htour⟩
  exact ⟨sights, hunique, htour.surveyed hfollows⟩

/-!
## A sample
-/

namespace Sample

/-- A folder with a name that occurs twice, with deleted files, and with a folder that
cannot be listed. -/
def shelf : Storage Id where
  list := fun system path =>
    if path = "/" then
      .ok [leaf "a.jpg" "/a.jpg", folder "/x", folder "/y", leaf "b.jpg" "/b.jpg"]
    else if path = "/x" then
      .ok [leaf "b.jpg" "/x/b.jpg", folder "/x/.Trash", leaf "b.jpg" "/x/"]
    else .error (.notListable system path)
  stat := fun system path => .error (.notListable system path)
  externalId := fun _ => .ok none
where
  leaf (name path : String) : Entry := { name, path, kind := .file, size := none }
  folder (path : String) : Entry := { name := "", path, kind := .directory, size := none }

def shelfSights : List Sight :=
  [.opened "/", .file (shelf.leaf "a.jpg" "/a.jpg"), .opened "/x",
    .file (shelf.leaf "b.jpg" "/x/b.jpg"), .trash (shelf.folder "/x/.Trash"),
    .file (shelf.leaf "b.jpg" "/x/"), .barred "/y", .file (shelf.leaf "b.jpg" "/b.jpg")]

theorem shelf_tour :
    Tour shelf EngineSettings.standard "s" "/" shelfSights := by
  have hbelow : Walk shelf EngineSettings.standard "s"
      [shelf.leaf "b.jpg" "/x/b.jpg", shelf.folder "/x/.Trash", shelf.leaf "b.jpg" "/x/"]
      [.file (shelf.leaf "b.jpg" "/x/b.jpg"), .trash (shelf.folder "/x/.Trash"),
        .file (shelf.leaf "b.jpg" "/x/")] :=
    .file rfl (.trash rfl (by decide) (.file rfl .nil))
  refine .opened rfl (.file rfl ?_)
  exact .opened rfl (by decide) rfl hbelow (.barred rfl (by decide) rfl (.file rfl .nil))

def shelfLevels (path : String) : Nat :=
  if path = "/" then 2 else if path = "/x" then 1 else 0

theorem shelfLevels_lt {child parent : String}
    (h : LeadsTo shelf EngineSettings.standard "s" child parent) :
    shelfLevels child < shelfLevels parent := by
  rcases h with ⟨entries, entry, hlist, hentry, hkind, htrash, rfl⟩
  by_cases hroot : parent = "/"
  · subst hroot
    cases hlist
    revert hkind htrash
    revert entry hentry
    decide
  · by_cases hx : parent = "/x"
    · subst hx
      cases hlist
      revert hkind htrash
      revert entry hentry
      decide
    · have hbarred : shelf.listing "s" parent = .error (.notListable "s" parent) := by
        simp only [Storage.listing, shelf, hroot, hx, if_false]
        rfl
      rw [hbarred] at hlist
      cases hlist

end Sample

theorem index_covers_tour_of_shelf :
    exists height, forall depth, height ≤ depth -> forall world : Recorded Unit,
      exists index after,
        (Surveyor.index
          { storage := (Storage.answering Sample.shelf).recorded,
            engine := .standard, depth } "s" "/").run world = (index, after) ∧
        index.Covers "s" "/" Sample.shelfSights ∧
        after.exchanges = (Tour.calls Sample.shelf "s" Sample.shelfSights).reverse ++
          world.exchanges := by
  have hfounded : Acc (LeadsTo Sample.shelf .standard "s") "/" :=
    (Subrelation.wf Sample.shelfLevels_lt (measure Sample.shelfLevels).wf).apply "/"
  rcases index_covers_tour (Storage.answering_follows Sample.shelf) .standard "s" "/" hfounded
    with ⟨sights, hunique, height, hcovers⟩
  have hsights : Sample.shelfSights = sights := (hunique _).mp Sample.shelf_tour
  rw [hsights]
  exact ⟨height, hcovers⟩

end Whereabouts
