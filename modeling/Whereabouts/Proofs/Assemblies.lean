import Whereabouts.Proofs.Walks

/-!
# Assembled indices

An index may be put together by insertions, merges and surveys in any order.  Under every
name it has the paths that were inserted under it, in the order in which they were, with
the insertions of a merged index in the place of the merge; a path resolves to the first of
those under its file name.
-/

namespace Whereabouts

variable {m : Type -> Type} [Monad m] {ω : Type}

/-!
## Insertions
-/

/-- The paths inserted under a name, without the slashes in front. -/
def pathsUnder (name : String) (insertions : List (String × String)) : List String :=
  (insertions.filter fun file => file.1 = name).map fun file => RemotePath.relative file.2

theorem pathsUnder_append (name : String) (first rest : List (String × String)) :
    pathsUnder name (first ++ rest) = pathsUnder name first ++ pathsUnder name rest := by
  simp [pathsUnder]

def Sight.insertion? : Sight -> Option (String × String)
  | file entry => some (FileIndex.nameOf entry, entry.path)
  | _ => none

theorem pathsNamed_eq_pathsUnder (name : String) (sights : List Sight) :
    pathsNamed name sights = pathsUnder name (sights.filterMap Sight.insertion?) := by
  have hfiled : Sight.filed? = fun sight =>
      sight.insertion?.map fun file => (file.1, RemotePath.relative file.2) := by
    funext sight
    cases sight <;> rfl
  rw [pathsNamed, hfiled, <- List.map_filterMap, List.filter_map, List.map_map]
  rfl

/-!
## What surveys come across

However the answers of remote storage change, the index of a survey notes what the survey
comes across.
-/

namespace Surveyor

/-- What an entry of a listing brings into sight; `explore` goes through the listing of a
directory, where the survey may go down further. -/
def sightsAt (surveyor : Surveyor m) (system : String)
    (explore : Option (List Entry -> m (List Sight))) (entry : Entry) : m (List Sight) :=
  if !entry.isDirectory then
    pure [.file entry]
  else if surveyor.engine.isTrash entry.path then
    pure [.trash entry]
  else
    match explore with
    | none => pure [.barred entry.path]
    | some explore => do
        match <- (surveyor.storage.list system entry.path).run with
        | .ok children => return .opened entry.path :: (<- explore children)
        | .error _ => return [.barred entry.path]

/-- What a listing and the next `depth` levels bring into sight, depth first. -/
def sightsBelow (surveyor : Surveyor m) (system : String) :
    Nat -> List Entry -> m (List Sight)
  | 0, entries => List.flatten <$> entries.mapM (surveyor.sightsAt system none)
  | depth + 1, entries =>
      List.flatten <$>
        entries.mapM (surveyor.sightsAt system (some (surveyor.sightsBelow system depth)))

/-- What a survey of a directory comes across, nothing where it cannot be listed. -/
def sights (surveyor : Surveyor m) (system root : String) : m (List Sight) := do
  match <- (surveyor.storage.list system root).run with
  | .ok entries => return .opened root :: (<- surveyor.sightsBelow system surveyor.depth entries)
  | .error _ => return []

end Surveyor

namespace FileIndex

def noteAll (index : FileIndex) (sights : List Sight) : FileIndex :=
  sights.foldl note index

theorem noteAll_append (index : FileIndex) (first rest : List Sight) :
    index.noteAll (first ++ rest) = (index.noteAll first).noteAll rest :=
  List.foldl_append

theorem merge_noteAll_countDirectory (index : FileIndex) (system path : String)
    (below : List Sight) :
    index.merge ((empty system).countDirectory.noteAll below) =
      index.noteAll (.opened path :: below) := by
  rw [noteAll, merge_foldl_note, merge_countDirectory]
  rfl

end FileIndex

namespace Surveyor

variable [LawfulMonad m] {surveyor : Surveyor m} {system : String}

theorem visit_eq {explore : Option (List Entry -> m FileIndex)}
    {look : Option (List Entry -> m (List Sight))}
    (hexplore : explore = look.map fun go children =>
      (FileIndex.empty system).countDirectory.noteAll <$> go children)
    (index : FileIndex) (entry : Entry) :
    surveyor.visit system explore index entry =
      index.noteAll <$> surveyor.sightsAt system look entry := by
  subst hexplore
  unfold visit sightsAt
  split
  · rw [map_pure]
    rfl
  · split
    · rw [map_pure]
      rfl
    · cases look with
      | none =>
          rw [map_pure]
          rfl
      | some go =>
          rw [map_bind]
          refine bind_congr fun answer => ?_
          cases answer with
          | error failure =>
              rw [map_pure]
              rfl
          | ok children =>
              simp only [map_eq_pure_bind, bind_assoc, pure_bind,
                FileIndex.merge_noteAll_countDirectory _ system entry.path]

theorem foldlM_visit_eq {explore : Option (List Entry -> m FileIndex)}
    {look : Option (List Entry -> m (List Sight))}
    (hvisit : forall index entry, surveyor.visit system explore index entry =
      index.noteAll <$> surveyor.sightsAt system look entry)
    (index : FileIndex) (entries : List Entry) :
    entries.foldlM (surveyor.visit system explore) index =
      index.noteAll <$> List.flatten <$> entries.mapM (surveyor.sightsAt system look) := by
  induction entries generalizing index with
  | nil =>
      rw [List.foldlM_nil, List.mapM_nil, map_pure, map_pure]
      rfl
  | cons entry rest ih =>
      rw [List.foldlM_cons, List.mapM_cons, hvisit]
      simp only [ih, map_eq_pure_bind, bind_assoc, pure_bind, List.flatten_cons,
        FileIndex.noteAll_append]

theorem indexListing_eq (depth : Nat) (entries : List Entry) :
    surveyor.indexListing system depth entries =
      (FileIndex.empty system).countDirectory.noteAll <$>
        surveyor.sightsBelow system depth entries := by
  induction depth generalizing entries with
  | zero =>
      have hvisit : forall index entry, surveyor.visit system none index entry =
          index.noteAll <$> surveyor.sightsAt system none entry := visit_eq rfl
      rw [indexListing, foldlM_visit_eq hvisit]
      rfl
  | succ depth ih =>
      have hexplore : some (surveyor.indexListing system depth) =
          (some (surveyor.sightsBelow system depth)).map fun go children =>
            (FileIndex.empty system).countDirectory.noteAll <$> go children :=
        congrArg some (funext ih)
      rw [indexListing, foldlM_visit_eq (visit_eq hexplore)]
      rfl

/-- The index of a survey notes what the survey comes across, whatever the storage answers. -/
theorem index_eq (surveyor : Surveyor m) (system root : String) :
    surveyor.index system root =
      (FileIndex.empty system).noteAll <$> surveyor.sights system root := by
  unfold index sights
  rw [map_bind]
  refine bind_congr fun answer => ?_
  cases answer with
  | error failure =>
      rw [map_pure]
      rfl
  | ok entries =>
      simp only [indexListing_eq, map_eq_pure_bind, bind_assoc, pure_bind]
      rfl

end Surveyor

/-!
## Merging
-/

namespace FileIndex

variable {name : String}

/-- Some paths as they stand in an index, which has no name without paths. -/
def kept (paths : List String) : Option (List String) :=
  if paths = [] then none else some paths

theorem joined_kept (first rest : List String) :
    joined (kept first) (kept rest) = kept (first ++ rest) := by
  unfold kept
  by_cases hrest : rest = []
  · simp [hrest]
  · by_cases hfirst : first = [] <;> simp [hfirst, hrest]

theorem get?_noteAll_empty (system name : String) (sights : List Sight) :
    ((empty system).noteAll sights).get? name =
      kept (pathsUnder name (sights.filterMap Sight.insertion?)) := by
  rw [noteAll, get?_foldl_note, pathsNamed_eq_pathsUnder]
  rfl

theorem merge_assoc (a b c : FileIndex) : (a.merge b).merge c = a.merge (b.merge c) := by
  refine ext_get? rfl (fun name => ?_) (IndexCounts.add_assoc a.stats b.stats c.stats)
  simp only [get?_merge, joined_assoc]

theorem merge_empty (index : FileIndex) (system : String) :
    index.merge (empty system) = index := rfl

theorem empty_merge (index : FileIndex) (system : String) :
    (empty system).merge index = { index with system } := by
  refine ext_get? rfl (fun name => ?_) ?_
  · rw [get?_merge, get?_empty]
    show joined none (index.get? name) = index.get? name
    cases index.get? name <;> rfl
  · show IndexCounts.zero.add index.stats = index.stats
    simp [IndexCounts.add, IndexCounts.zero]

theorem resolve?_eq_some_iff {index : FileIndex} {path first : String} :
    index.resolve? path = some first <->
      exists segment rest, (RemotePath.segments path).getLast? = some segment ∧ segment ≠ [] ∧
        index.get? (String.ofList segment) = some (first :: rest) := by
  unfold resolve? RemotePath.fileName?
  cases (RemotePath.segments path).getLast? with
  | none => simp
  | some segment =>
      by_cases hsegment : segment = []
      · simp [hsegment]
      · simp only [List.isEmpty_iff, hsegment, if_false]
        rcases hget : index.get? (String.ofList segment) with _ | ⟨_ | ⟨path, paths⟩⟩ <;>
          simp [hsegment, hget]

end FileIndex

/-!
## Assemblies
-/

/-- How an index is put together. -/
inductive Assembly (ω : Type) where
  | empty (system : String)
  | insert (front : Assembly ω) (name path : String)
  | merge (front back : Assembly ω)
  /-- The survey of a directory, with remote storage in some state. -/
  | survey (surveyor : Surveyor (StateM ω)) (state : ω) (system root : String)

namespace Assembly

def index : Assembly ω -> FileIndex
  | empty system => .empty system
  | insert front name path => front.index.insert name path
  | merge front back => front.index.merge back.index
  | survey surveyor state system root => ((surveyor.index system root).run state).1

/-- The names and paths that are inserted, in their order; those of a survey are the files
that it comes across. -/
def insertions : Assembly ω -> List (String × String)
  | empty _ => []
  | insert front name path => front.insertions ++ [(name, path)]
  | merge front back => front.insertions ++ back.insertions
  | survey surveyor state system root =>
      ((surveyor.sights system root).run state).1.filterMap Sight.insertion?

theorem get?_index (assembly : Assembly ω) (name : String) :
    assembly.index.get? name = FileIndex.kept (pathsUnder name assembly.insertions) := by
  induction assembly with
  | empty system => rfl
  | insert front inserted path ih =>
      rw [index, insertions, FileIndex.get?_insert, pathsUnder_append]
      by_cases hname : name = inserted
      · have hnew : pathsUnder name [(inserted, path)] = [RemotePath.relative path] := by
          simp [pathsUnder, hname]
        rw [if_pos hname, ih, hnew, <- FileIndex.joined_kept]
        rfl
      · have hnew : pathsUnder name [(inserted, path)] = [] := by
          simp [pathsUnder, Ne.symm hname]
        rw [if_neg hname, ih, hnew, List.append_nil]
  | merge front back ihFront ihBack =>
      rw [index, insertions, FileIndex.get?_merge, ihFront, ihBack, FileIndex.joined_kept,
        pathsUnder_append]
  | survey surveyor state system root =>
      rw [index, surveyor.index_eq system root, StateT.run_map]
      exact FileIndex.get?_noteAll_empty system name _

/-- An index has under every name the paths inserted under it, in their order, and a path
resolves to the first one under its last segment.  Merging is associative, with the empty
index as neutral element but for the system, which is that of the first index, and adds the
counters. -/
theorem index_concatenates (assembly : Assembly ω) :
    (forall name, assembly.index.get? name =
      if pathsUnder name assembly.insertions = [] then none
      else some (pathsUnder name assembly.insertions)) ∧
    (forall path first, assembly.index.resolve? path = some first <->
      exists segment rest, (RemotePath.segments path).getLast? = some segment ∧
        segment ≠ [] ∧ pathsUnder (String.ofList segment) assembly.insertions = first :: rest) ∧
    (forall a b c : FileIndex, (a.merge b).merge c = a.merge (b.merge c)) ∧
    (forall (a : FileIndex) (system : String), a.merge (FileIndex.empty system) = a ∧
      (FileIndex.empty system).merge a = { a with system }) ∧
    (forall a b : FileIndex, (a.merge b).system = a.system ∧
      (a.merge b).stats =
        { directories := a.stats.directories + b.stats.directories
          files := a.stats.files + b.stats.files
          skippedSubtrees := a.stats.skippedSubtrees + b.stats.skippedSubtrees
          skippedTrash := a.stats.skippedTrash + b.stats.skippedTrash }) := by
  refine ⟨assembly.get?_index, ?_, FileIndex.merge_assoc, ?_, fun _ _ => ⟨rfl, rfl⟩⟩
  · intro path first
    rw [FileIndex.resolve?_eq_some_iff]
    refine exists_congr fun segment => exists_congr fun rest => ?_
    refine and_congr_right fun _ => and_congr_right fun _ => ?_
    rw [get?_index, FileIndex.kept]
    split
    · rename_i hnone
      simp [hnone]
    · exact Option.some_inj
  · exact fun a system => ⟨a.merge_empty system, a.empty_merge system⟩

end Assembly
end Whereabouts
