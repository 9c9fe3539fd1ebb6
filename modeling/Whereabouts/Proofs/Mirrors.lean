import Mathlib.Tactic.Common
import Whereabouts.Proofs.ByteOrder
import Whereabouts.Proofs.Paging
import Whereabouts.Proofs.Trees
import Whereabouts.Storage.Directory

/-!
# Directories as storage

What a directory on disk answers as storage is what stands in it: a path is refused when
it leads up, nothing stands there or the file system does not take a path that long, and
every entry of a listing describes what is found again under the path of the entry.
-/

namespace Whereabouts

variable {σ α β : Type}

theorem Remote.on_mapM {f : α -> Remote (StateM σ) β} {g : α -> β} {s : σ} {items : List α}
    (h : forall item, item ∈ items -> (f item).on s = (.ok (g item), s)) :
    Remote.on (items.mapM f) s = (.ok (items.map g), s) := by
  induction items with
  | nil => rfl
  | cons item rest ih =>
      have hrest := ih fun other hother => h other (List.mem_cons_of_mem _ hother)
      rw [List.mapM_cons, on_bind_of_ok (h item List.mem_cons_self), on_bind_of_ok hrest]
      rfl

theorem Remote.on_mapM_io {f : α -> Remote (StateM σ) β} {g : α -> β} {s : σ} {items : List α}
    (h : forall item, item ∈ items -> (f item).on s = (.ok (g item), s) ∨
      exists reason, (f item).on s = (.error (.io reason), s))
    {item : α} (hmem : item ∈ items) {reason : String}
    (hfailed : (f item).on s = (.error (.io reason), s)) :
    exists other, Remote.on (items.mapM f) s = (.error (.io other), s) := by
  induction items with
  | nil => cases hmem
  | cons first rest ih =>
      rw [List.mapM_cons]
      rcases h first List.mem_cons_self with hfirst | ⟨other, hfirst⟩
      · rw [on_bind_of_ok hfirst]
        rcases List.mem_cons.mp hmem with rfl | hrest
        · rw [hfirst] at hfailed
          cases hfailed
        · rcases ih (fun other hother => h other (List.mem_cons_of_mem _ hother)) hrest with
            ⟨other, hother⟩
          exact ⟨other, on_bind_of_error hother⟩
      · exact ⟨other, on_bind_of_error hfirst⟩

theorem Remote.on_bind_lift (x : StateM σ α) (f : α -> Remote (StateM σ) β) (s : σ) :
    Remote.on (ExceptT.lift x >>= f) s = (f (x.run s).1).on (x.run s).2 :=
  Remote.on_bind_of_ok rfl

namespace DirectoryStorage

open RemotePath (IsName)
open FileTree (longestPath)

/-!
## Names
-/

def plainNames (path : String) : List String :=
  (DiskPath.parts path).filter fun part => part != "."

def leadsUp (path : String) : Bool :=
  (DiskPath.parts path).contains ".."

theorem contains_plainNames (path : String) : (plainNames path).contains ".." = leadsUp path := by
  rw [Bool.eq_iff_iff, leadsUp, List.contains_iff_mem, List.contains_iff_mem, plainNames,
    List.mem_filter]
  exact and_iff_left (by decide)

theorem names?_eq (path : String) :
    names? path = if leadsUp path then none else some (plainNames path) := by
  rw [<- contains_plainNames]
  rfl

theorem isName_of_mem_plainNames {path name : String} (hup : leadsUp path = false)
    (h : name ∈ plainNames path) : IsName name := by
  rcases List.mem_filter.mp h with ⟨hmem, hhere⟩
  rcases List.mem_map.mp hmem with ⟨s, hs, rfl⟩
  rcases RemotePath.of_mem_namesIn hs with ⟨hne, hslash⟩
  refine ⟨?_, ?_, ?_, ?_⟩
  · intro hempty
    exact hne (String.ofList_injective hempty)
  · rwa [String.toList_ofList]
  · simpa using hhere
  · intro hdots
    rw [leadsUp, List.contains_eq_mem, decide_eq_false_iff_not] at hup
    exact hup (hdots ▸ hmem)

theorem toList_pathOf (names : List String) :
    (pathOf names).toList = Text.joined '/' (names.map String.toList) := by
  unfold pathOf
  induction names with
  | nil => rfl
  | cons name rest ih =>
      cases rest with
      | nil => rfl
      | cons next others =>
          rw [Text.joinWith, String.toList_append, String.toList_append, ih]
          · simp [Text.joined]
          · exact List.cons_ne_nil _ _

theorem parts_pathOf {names : List String} (h : forall name, name ∈ names -> IsName name) :
    DiskPath.parts (pathOf names) = names := by
  have hparts : forall part, part ∈ names.map String.toList -> part ≠ [] ∧ '/' ∉ part := by
    intro part hpart
    rcases List.mem_map.mp hpart with ⟨name, hname, rfl⟩
    exact ⟨fun hnil => (h name hname).ne_empty (String.toList_injective hnil),
      (h name hname).no_slash⟩
  have hnames : RemotePath.names (pathOf names) = names.map String.toList := by
    rw [RemotePath.names, toList_pathOf, RemotePath.namesIn_joined hparts]
  refine (congrArg (List.map String.ofList) hnames).trans ?_
  simp [List.map_map]

theorem plainNames_pathOf {names : List String} (h : forall name, name ∈ names -> IsName name) :
    plainNames (pathOf names) = names := by
  rw [plainNames, parts_pathOf h, List.filter_eq_self]
  intro name hname
  simpa using (h name hname).ne_here

theorem leadsUp_pathOf {names : List String} (h : forall name, name ∈ names -> IsName name) :
    leadsUp (pathOf names) = false := by
  rw [leadsUp, parts_pathOf h, List.contains_eq_mem, decide_eq_false_iff_not]
  exact fun hmem => (h _ hmem).ne_up rfl

/-!
## Calls
-/

/-- The store that a root on disk is. -/
def mirror (root : String) : DirectoryStorage (StateM FileTree) where
  disk := FileTree.disk
  root := root

def entryOf (system : String) (names : List String) (node : FileNode) : Entry :=
  let name := (system :: names).getLast (List.cons_ne_nil _ _)
  match node with
  | .file text =>
      { name, path := pathOf names, kind := .file, size := some (UInt64.ofNat text.utf8ByteSize) }
  | _ => { name, path := pathOf names, kind := .directory, size := none }

/-- A root that leads to a directory which holds only files and directories. -/
structure Mirrors (root : String) (tree : FileTree) (home : List String) : Prop where
  root : tree.leads root = .found home .directory
  regular : tree.Regular home

/-- Whether the place of some names in a system can be asked for: its path is not too
long. -/
def Fits (root system : String) (names : List String) : Prop :=
  ((mirror root).place system names).utf8ByteSize ≤ longestPath

/-- Whether a path leads up or to nothing, or is too long to be asked for. -/
def Refused (root : String) (tree : FileTree) (home : List String) (system path : String) : Prop :=
  leadsUp path = true ∨ tree.standing home (system :: plainNames path) = none ∨
    ¬ Fits root system (plainNames path)

theorem not_refused_iff {root : String} {tree : FileTree} {home : List String}
    {system path : String} :
    ¬ Refused root tree home system path <-> leadsUp path = false ∧
      (exists node, tree.standing home (system :: plainNames path) = some node) ∧
      Fits root system (plainNames path) := by
  rw [Refused, not_or, not_or, Bool.not_eq_true, not_not]
  exact and_congr_right fun _ => and_congr_left fun _ => Option.ne_none_iff_exists'

section Calls

variable {root system path : String} {tree : FileTree} {home names : List String}
  {node : FileNode}

theorem on_filing {operation : Filing (StateM σ) α} {value : α} {s after : σ}
    (h : operation.run.run s = (.ok value, after)) :
    (filing operation).on s = (.ok value, after) :=
  View.run_bind_of_eq h

theorem on_filing_error {operation : Filing (StateM σ) α} {failure : DiskError} {s after : σ}
    (h : operation.run.run s = (.error failure, after)) :
    (filing operation).on s = (.error (.io failure.message), after) :=
  View.run_bind_of_eq h

theorem find_place (hmirrors : Mirrors root tree home) (hsystem : IsName system)
    (hfits : Fits root system names) (hnames : forall name, name ∈ names -> IsName name)
    (hnode : tree.standing home (system :: names) = some node) :
    tree.find ((mirror root).place system names) = .ok (home ++ system :: names, node) :=
  (FileTree.find_below hmirrors.root hmirrors.regular
    (List.forall_mem_cons.mpr ⟨hsystem, hnames⟩) (List.cons_ne_nil _ _)).1 node hnode
    hfits

theorem find_place_of_none (hmirrors : Mirrors root tree home) (hsystem : IsName system)
    (hnames : forall name, name ∈ names -> IsName name)
    (hnone : tree.standing home (system :: names) = none) :
    exists failure, tree.find ((mirror root).place system names) = .error failure :=
  (FileTree.find_below hmirrors.root hmirrors.regular
    (List.forall_mem_cons.mpr ⟨hsystem, hnames⟩) (List.cons_ne_nil _ _)).2 hnone

theorem entry_on (hmirrors : Mirrors root tree home) (hsystem : IsName system)
    (hfits : Fits root system names) (hnames : forall name, name ∈ names -> IsName name)
    (hnode : tree.standing home (system :: names) = some node) :
    ((mirror root).entry system names).on tree = (.ok (entryOf system names node), tree) := by
  have hkind := FileTree.inspect_of_find (find_place hmirrors hsystem hfits hnames hnode)
  have hname : DiskPath.fileName? ((mirror root).place system names) = _ :=
    DiskPath.fileName?_foldl_join root (List.forall_mem_cons.mpr ⟨hsystem, hnames⟩)
      (List.cons_ne_nil _ _)
  have hinspect : (filing ((mirror root).disk.inspect ((mirror root).place system names))).on tree =
      (.ok (FileTree.kindOf node), tree) :=
    on_filing (congrArg (·, tree) hkind)
  unfold entry
  rw [Remote.on_bind_of_ok hinspect, hname]
  cases node <;> rfl

/-- The description of a place whose path is too long is no description. -/
theorem entry_of_too_long (tree : FileTree) (hlong : ¬ Fits root system names) :
    exists reason, ((mirror root).entry system names).on tree = (.error (.io reason), tree) := by
  have hfailed : exists failure, tree.find ((mirror root).place system names) = .error failure :=
    FileTree.find_of_too_long (Nat.not_le.mp hlong)
  rcases hfailed with ⟨failure, hfind⟩
  have hinspect : (filing ((mirror root).disk.inspect ((mirror root).place system names))).on tree =
      (.error (.io failure.message), tree) :=
    on_filing_error (congrArg (·, tree) (FileTree.inspect_of_find_error hfind))
  exact ⟨failure.message, Remote.on_bind_of_error hinspect⟩

theorem find_accepted (hmirrors : Mirrors root tree home) (hsystem : IsName system)
    (hfits : Fits root system (plainNames path)) (hup : leadsUp path = false)
    (hnode : tree.standing home (system :: plainNames path) = some node) :
    ((mirror root).find system path).on tree =
      (.ok (plainNames path, FileTree.kindOf node), tree) := by
  have hnames : forall name, name ∈ plainNames path -> IsName name := fun _ =>
    isName_of_mem_plainNames hup
  have hkind : ((mirror root).disk.inspect ((mirror root).place system (plainNames path))).run.run
      tree = (tree.inspect ((mirror root).place system (plainNames path)), tree) := rfl
  unfold find
  rw [names?_eq, hup]
  refine (Remote.on_bind_lift _ _ _).trans ?_
  rw [hkind, FileTree.inspect_of_find (find_place hmirrors hsystem hfits hnames hnode)]
  rfl

theorem find_of_error {failure : DiskError}
    (h : tree.find ((mirror root).place system (plainNames path)) = .error failure) :
    ((mirror root).find system path).on tree = (.error (.notListable system path), tree) := by
  have hkind : ((mirror root).disk.inspect ((mirror root).place system (plainNames path))).run.run
      tree = (tree.inspect ((mirror root).place system (plainNames path)), tree) := rfl
  unfold find
  rw [names?_eq]
  cases leadsUp path with
  | true => rfl
  | false =>
      refine (Remote.on_bind_lift _ _ _).trans ?_
      rw [hkind, FileTree.inspect_of_find_error h]
      rfl

theorem find_refused (hmirrors : Mirrors root tree home) (hsystem : IsName system)
    (hrefused : Refused root tree home system path) :
    ((mirror root).find system path).on tree = (.error (.notListable system path), tree) := by
  cases hup : leadsUp path with
  | true =>
      unfold find
      rw [names?_eq, hup]
      rfl
  | false =>
      have hfailed : exists failure,
          tree.find ((mirror root).place system (plainNames path)) = .error failure := by
        rcases hrefused.resolve_left (hup ▸ Bool.false_ne_true) with hnone | hlong
        · exact find_place_of_none hmirrors hsystem (fun name => isName_of_mem_plainNames hup) hnone
        · exact FileTree.find_of_too_long (Nat.not_le.mp hlong)
      rcases hfailed with ⟨failure, hfind⟩
      exact find_of_error hfind

theorem children_on (hmirrors : Mirrors root tree home) (hsystem : IsName system)
    (hfits : Fits root system names) (hnames : forall name, name ∈ names -> IsName name)
    (hnode : tree.standing home (system :: names) = some .directory) :
    (filing ((mirror root).disk.children ((mirror root).place system names))).on tree =
      (.ok (tree.namesBelow (home ++ system :: names)), tree) := by
  have hfind := find_place hmirrors hsystem hfits hnames hnode
  have hchildren : tree.children ((mirror root).place system names) =
      .ok (tree.namesBelow (home ++ system :: names)) := by
    rw [FileTree.children, hfind]
  exact on_filing (congrArg (·, tree) hchildren)

theorem mem_namesBelow_iff (name : String) :
    name ∈ tree.namesBelow (home ++ system :: names) <->
      (tree.standing home (system :: (names ++ [name]))).isSome = true := by
  rw [FileTree.mem_namesBelow, <- List.cons_append, FileTree.standing_concat]

def childOf (tree : FileTree) (home : List String) (system : String) (names : List String)
    (name : String) : Entry :=
  entryOf system (names ++ [name])
    ((tree.standing home (system :: (names ++ [name]))).getD .directory)

theorem stat_on (hmirrors : Mirrors root tree home) (hsystem : IsName system)
    (hfits : Fits root system (plainNames path)) (hup : leadsUp path = false)
    (hnode : tree.standing home (system :: plainNames path) = some node) :
    ((mirror root).stat system path).on tree =
      (.ok (entryOf system (plainNames path) node), tree) := by
  have hnames : forall name, name ∈ plainNames path -> IsName name := fun _ =>
    isName_of_mem_plainNames hup
  unfold stat
  rw [Remote.on_bind_of_ok (find_accepted hmirrors hsystem hfits hup hnode)]
  exact entry_on hmirrors hsystem hfits hnames hnode

theorem exists_child (hmirrors : Mirrors root tree home)
    (hnames : forall name, name ∈ names -> IsName name) {name : String}
    (hname : name ∈ tree.namesBelow (home ++ system :: names)) :
    exists node, tree.standing home (system :: (names ++ [name])) = some node ∧
      (forall other, other ∈ names ++ [name] -> IsName other) ∧
      childOf tree home system names name = entryOf system (names ++ [name]) node := by
  rcases Option.isSome_iff_exists.mp ((mem_namesBelow_iff name).mp hname) with ⟨node, hnode⟩
  refine ⟨node, hnode, fun other hother => ?_, ?_⟩
  · rcases List.mem_append.mp hother with hother | hother
    · exact hnames other hother
    · rw [List.mem_singleton.mp hother]
      rw [<- List.cons_append] at hnode
      exact (hmirrors.regular.name _ _ _ hnode).1
  · rw [childOf, hnode]
    rfl

theorem child_on (hmirrors : Mirrors root tree home) (hsystem : IsName system)
    (hnames : forall name, name ∈ names -> IsName name) {name : String}
    (hfits : Fits root system (names ++ [name]))
    (hname : name ∈ tree.namesBelow (home ++ system :: names)) :
    ((mirror root).entry system (names ++ [name])).on tree =
      (.ok (childOf tree home system names name), tree) := by
  rcases exists_child hmirrors hnames hname with ⟨node, hnode, hall, hchild⟩
  rw [entry_on hmirrors hsystem hfits hall hnode, hchild]

theorem list_file_on (hmirrors : Mirrors root tree home) (hsystem : IsName system)
    (hfits : Fits root system (plainNames path)) (hup : leadsUp path = false) {text : String}
    (hnode : tree.standing home (system :: plainNames path) = some (.file text)) :
    ((mirror root).list system path).on tree =
      (.ok [entryOf system (plainNames path) (.file text)], tree) := by
  have hnames : forall name, name ∈ plainNames path -> IsName name := fun _ =>
    isName_of_mem_plainNames hup
  unfold list
  rw [Remote.on_bind_of_ok (find_accepted hmirrors hsystem hfits hup hnode)]
  exact Remote.on_bind_of_ok (entry_on hmirrors hsystem hfits hnames hnode)

theorem list_directory_on (hmirrors : Mirrors root tree home) (hsystem : IsName system)
    (hfits : Fits root system (plainNames path)) (hup : leadsUp path = false)
    (hnode : tree.standing home (system :: plainNames path) = some .directory) :
    ((mirror root).list system path).on tree =
      Remote.on ((tree.namesBelow (home ++ system :: plainNames path)).mapM fun child =>
        (mirror root).entry system (plainNames path ++ [child])) tree := by
  have hnames : forall name, name ∈ plainNames path -> IsName name := fun _ =>
    isName_of_mem_plainNames hup
  unfold list
  rw [Remote.on_bind_of_ok (find_accepted hmirrors hsystem hfits hup hnode)]
  exact Remote.on_bind_of_ok (children_on hmirrors hsystem hfits hnames hnode)

/-- A directory is listed when the path to each of its children can be asked for. -/
theorem list_children_on (hmirrors : Mirrors root tree home) (hsystem : IsName system)
    (hfits : Fits root system (plainNames path)) (hup : leadsUp path = false)
    (hnode : tree.standing home (system :: plainNames path) = some .directory)
    (hchildren : forall name, name ∈ tree.namesBelow (home ++ system :: plainNames path) ->
      Fits root system (plainNames path ++ [name])) :
    ((mirror root).list system path).on tree =
      (.ok ((tree.namesBelow (home ++ system :: plainNames path)).map
        (childOf tree home system (plainNames path))), tree) := by
  have hnames : forall name, name ∈ plainNames path -> IsName name := fun _ =>
    isName_of_mem_plainNames hup
  rw [list_directory_on hmirrors hsystem hfits hup hnode]
  exact Remote.on_mapM fun name hname =>
    child_on hmirrors hsystem hnames (hchildren name hname) hname

theorem list_child_too_long (hmirrors : Mirrors root tree home) (hsystem : IsName system)
    (hfits : Fits root system (plainNames path)) (hup : leadsUp path = false)
    (hnode : tree.standing home (system :: plainNames path) = some .directory) {name : String}
    (hname : name ∈ tree.namesBelow (home ++ system :: plainNames path))
    (hlong : ¬ Fits root system (plainNames path ++ [name])) :
    exists reason,
      ((mirror root).list system path).on tree = (.error (.io reason), tree) := by
  have hnames : forall name, name ∈ plainNames path -> IsName name := fun _ =>
    isName_of_mem_plainNames hup
  rw [list_directory_on hmirrors hsystem hfits hup hnode]
  rcases entry_of_too_long tree hlong with ⟨reason, hfailed⟩
  refine Remote.on_mapM_io (g := childOf tree home system (plainNames path)) ?_ hname hfailed
  intro other hother
  by_cases hshort : Fits root system (plainNames path ++ [other])
  · exact Or.inl (child_on hmirrors hsystem hnames hshort hother)
  · exact Or.inr (entry_of_too_long tree hshort)

end Calls

/-!
## The view of a system
-/

/-- What the storage tells of a system, and what stands in its directory. -/
structure Coherent (root : String) (tree : FileTree) (home : List String) (system : String) :
    Prop where
  list_refused : forall path, Refused root tree home system path <->
    ((mirror root).list system path).on tree = (.error (.notListable system path), tree)
  stat_refused : forall path, Refused root tree home system path <->
    ((mirror root).stat system path).on tree = (.error (.notListable system path), tree)
  /-- A path that is not refused leads to a place in the directory of the system.  It is
  listed unless the path to one of its children is too long. -/
  accepted : forall path, ¬ Refused root tree home system path -> exists node entry,
    tree.find ((mirror root).place system (plainNames path)) =
      .ok (home ++ system :: plainNames path, node) ∧
    ((mirror root).stat system path).on tree = (.ok entry, tree) ∧
    ((exists entries, ((mirror root).list system path).on tree = (.ok entries, tree)) <->
      forall name,
        (tree.standing home (system :: (plainNames path ++ [name]))).isSome = true ->
          Fits root system (plainNames path ++ [name]))
  /-- The spelling of a path makes no difference. -/
  same : forall path other, plainNames path = plainNames other ->
    (forall entries, ((mirror root).list system path).on tree = (.ok entries, tree) ->
      ((mirror root).list system other).on tree = (.ok entries, tree)) ∧
    forall entry, ((mirror root).stat system path).on tree = (.ok entry, tree) ->
      ((mirror root).stat system other).on tree = (.ok entry, tree)
  /-- Each child of a directory is listed once, in the order of the bytes of names. -/
  children : forall path entries,
    tree.standing home (system :: plainNames path) = some .directory ->
    ((mirror root).list system path).on tree = (.ok entries, tree) ->
      entries.Pairwise (fun a b => Text.bytes a.name < Text.bytes b.name) ∧
      forall name, name ∈ entries.map Entry.name <->
        (tree.standing home (system :: (plainNames path ++ [name]))).isSome = true
  file : forall path text, ¬ Refused root tree home system path ->
    tree.standing home (system :: plainNames path) = some (.file text) ->
    exists entry, ((mirror root).list system path).on tree = (.ok [entry], tree) ∧
      ((mirror root).stat system path).on tree = (.ok entry, tree)
  /-- An entry has the path of the file that it describes, and asking for that path gives
  the entry again. -/
  entries : forall path entries,
    ((mirror root).list system path).on tree = (.ok entries, tree) ->
    forall entry, entry ∈ entries -> exists names node,
      (names = plainNames path ∨ names = plainNames path ++ [entry.name]) ∧
      tree.standing home (system :: names) = some node ∧
      entry = entryOf system names node ∧
      plainNames entry.path = names ∧ ¬ Refused root tree home system entry.path ∧
      tree.find ((mirror root).place system (plainNames entry.path)) =
        .ok (home ++ system :: names, node) ∧
      ((mirror root).stat system entry.path).on tree = (.ok entry, tree)

section View

variable {root system path : String} {tree : FileTree} {home names : List String}
  {node : FileNode}

inductive Listed (root : String) (tree : FileTree) (home : List String) (system path : String) :
    Except StorageError (List Entry) -> Prop
  | refused (hrefused : Refused root tree home system path) :
      Listed root tree home system path (.error (.notListable system path))
  | file {text : String} (haccepted : ¬ Refused root tree home system path)
      (hnode : tree.standing home (system :: plainNames path) = some (.file text)) :
      Listed root tree home system path (.ok [entryOf system (plainNames path) (.file text)])
  | directory (haccepted : ¬ Refused root tree home system path)
      (hnode : tree.standing home (system :: plainNames path) = some .directory)
      (hchildren : forall name, name ∈ tree.namesBelow (home ++ system :: plainNames path) ->
        Fits root system (plainNames path ++ [name])) :
      Listed root tree home system path
        (.ok ((tree.namesBelow (home ++ system :: plainNames path)).map
          (childOf tree home system (plainNames path))))
  | broken {name reason : String} (haccepted : ¬ Refused root tree home system path)
      (hnode : tree.standing home (system :: plainNames path) = some .directory)
      (hname : name ∈ tree.namesBelow (home ++ system :: plainNames path))
      (hlong : ¬ Fits root system (plainNames path ++ [name])) :
      Listed root tree home system path (.error (.io reason))

theorem listed (hmirrors : Mirrors root tree home) (hsystem : IsName system) (path : String) :
    exists answer, ((mirror root).list system path).on tree = (answer, tree) ∧
      Listed root tree home system path answer := by
  by_cases hrefused : Refused root tree home system path
  · exact ⟨_, Remote.on_bind_of_error (find_refused hmirrors hsystem hrefused),
      .refused hrefused⟩
  rcases not_refused_iff.mp hrefused with ⟨hup, ⟨node, hnode⟩, hfits⟩
  cases node with
  | file text => exact ⟨_, list_file_on hmirrors hsystem hfits hup hnode, .file hrefused hnode⟩
  | link target => exact absurd hnode (hmirrors.regular.plain _ target)
  | directory =>
      by_cases hchildren : forall name,
          name ∈ tree.namesBelow (home ++ system :: plainNames path) ->
            Fits root system (plainNames path ++ [name])
      · exact ⟨_, list_children_on hmirrors hsystem hfits hup hnode hchildren,
          .directory hrefused hnode hchildren⟩
      · rcases Classical.not_forall.mp hchildren with ⟨name, hchild⟩
        rcases Classical.not_imp.mp hchild with ⟨hname, hlong⟩
        rcases list_child_too_long hmirrors hsystem hfits hup hnode hname hlong with
          ⟨reason, hlist⟩
        exact ⟨_, hlist, .broken hrefused hnode hname hlong⟩

theorem list_refused_iff (hmirrors : Mirrors root tree home) (hsystem : IsName system)
    (path : String) : Refused root tree home system path <->
      ((mirror root).list system path).on tree = (.error (.notListable system path), tree) := by
  rcases listed hmirrors hsystem path with ⟨answer, hlist, hlisted⟩
  rw [hlist]
  cases hlisted with
  | refused hrefused => exact iff_of_true hrefused rfl
  | file haccepted _ => exact iff_of_false haccepted (fun h => nomatch h)
  | directory haccepted _ _ => exact iff_of_false haccepted (fun h => nomatch h)
  | broken haccepted _ _ _ => exact iff_of_false haccepted (fun h => nomatch h)

theorem stat_refused_iff (hmirrors : Mirrors root tree home) (hsystem : IsName system)
    (path : String) : Refused root tree home system path <->
      ((mirror root).stat system path).on tree = (.error (.notListable system path), tree) := by
  constructor
  · exact fun hrefused => Remote.on_bind_of_error (find_refused hmirrors hsystem hrefused)
  · intro herror
    by_contra haccepted
    rcases not_refused_iff.mp haccepted with ⟨hup, ⟨node, hnode⟩, hfits⟩
    rw [stat_on hmirrors hsystem hfits hup hnode] at herror
    cases herror

/-- A path that is not refused is listed when the path to each child can be asked for. -/
theorem list_ok_iff (hmirrors : Mirrors root tree home) (hsystem : IsName system)
    (haccepted : ¬ Refused root tree home system path) :
    (exists entries, ((mirror root).list system path).on tree = (.ok entries, tree)) <->
      forall name, (tree.standing home (system :: (plainNames path ++ [name]))).isSome = true ->
        Fits root system (plainNames path ++ [name]) := by
  rcases listed hmirrors hsystem path with ⟨answer, hlist, hlisted⟩
  rw [hlist]
  cases hlisted with
  | refused hrefused => exact absurd hrefused haccepted
  | file _ hnode =>
      refine iff_of_true ⟨_, rfl⟩ fun name hchild => ?_
      rcases Option.isSome_iff_exists.mp hchild with ⟨child, hchild⟩
      rw [<- List.cons_append] at hchild
      have hparent := hmirrors.regular.parent _ _ _ hchild
      rw [hnode] at hparent
      cases hparent
  | directory _ _ hchildren =>
      exact iff_of_true ⟨_, rfl⟩ fun name hname =>
        hchildren name ((mem_namesBelow_iff name).mpr hname)
  | broken _ _ hname hlong =>
      refine iff_of_false (fun h => nomatch h) fun hchildren => hlong ?_
      exact hchildren _ ((mem_namesBelow_iff _).mp hname)

theorem entryOf_path (system : String) (names : List String) (node : FileNode) :
    (entryOf system names node).path = pathOf names := by
  cases node <;> rfl

theorem childOf_name (tree : FileTree) (home : List String) (system : String)
    (names : List String) (name : String) : (childOf tree home system names name).name = name := by
  have hname : forall node, (entryOf system (names ++ [name]) node).name =
      (system :: (names ++ [name])).getLast (List.cons_ne_nil _ _) := by
    intro node
    cases node <;> rfl
  rw [childOf, hname,
    List.getLast_cons (List.append_ne_nil_of_right_ne_nil _ (List.cons_ne_nil _ _)),
    List.getLast_concat]

theorem entry_found (hmirrors : Mirrors root tree home) (hsystem : IsName system)
    (hfits : Fits root system names) (hnames : forall name, name ∈ names -> IsName name)
    (hnode : tree.standing home (system :: names) = some node) {entry : Entry}
    (hentry : entry = entryOf system names node) :
    plainNames entry.path = names ∧ ¬ Refused root tree home system entry.path ∧
      tree.find ((mirror root).place system (plainNames entry.path)) =
        .ok (home ++ system :: names, node) ∧
      ((mirror root).stat system entry.path).on tree = (.ok entry, tree) := by
  have hpath : entry.path = pathOf names := by
    rw [hentry, entryOf_path]
  have hplain : plainNames entry.path = names := by
    rw [hpath, plainNames_pathOf hnames]
  have hup : leadsUp entry.path = false := by
    rw [hpath, leadsUp_pathOf hnames]
  have hstanding : tree.standing home (system :: plainNames entry.path) = some node := by
    rw [hplain, hnode]
  have hplace : Fits root system (plainNames entry.path) := by
    rw [hplain]
    exact hfits
  refine ⟨hplain, not_refused_iff.mpr ⟨hup, ⟨node, hstanding⟩, hplace⟩, ?_, ?_⟩
  · rw [hplain]
    exact find_place hmirrors hsystem hfits hnames hnode
  · rw [stat_on hmirrors hsystem hplace hup hstanding, hplain, hentry]

theorem find_congr {other : String} (h : plainNames path = plainNames other)
    {found : List String × FileKind} {after : FileTree}
    (hfind : ((mirror root).find system path).on tree = (.ok found, after)) :
    ((mirror root).find system other).on tree = (.ok found, after) := by
  have hup : leadsUp path = leadsUp other := by
    rw [<- contains_plainNames, <- contains_plainNames, h]
  unfold find at hfind ⊢
  rw [names?_eq, hup] at hfind
  rw [names?_eq]
  cases hother : leadsUp other with
  | true =>
      rw [hother] at hfind
      cases hfind
  | false =>
      rw [hother, h] at hfind
      change Remote.on (ExceptT.lift _ >>= _) tree = _ at hfind
      change Remote.on (ExceptT.lift _ >>= _) tree = _
      rw [Remote.on_bind_lift] at hfind ⊢
      generalize ((mirror root).disk.inspect ((mirror root).place system
        (plainNames other))).run.run tree = answered at hfind ⊢
      rcases answered with ⟨failure | kind, between⟩
      · cases hfind
      · exact hfind

/-- The storage gives a coherent view of every system. -/
theorem views_tree (hmirrors : Mirrors root tree home) (hsystem : IsName system) :
    Coherent root tree home system where
  list_refused := list_refused_iff hmirrors hsystem
  stat_refused := stat_refused_iff hmirrors hsystem
  accepted := by
    intro path haccepted
    rcases not_refused_iff.mp haccepted with ⟨hup, ⟨node, hnode⟩, hfits⟩
    exact ⟨node, _, find_place hmirrors hsystem hfits
      (fun name => isName_of_mem_plainNames hup) hnode,
      stat_on hmirrors hsystem hfits hup hnode, list_ok_iff hmirrors hsystem haccepted⟩
  same := by
    intro path other hplain
    constructor
    · intro entries hlist
      rcases Remote.of_on_bind_ok hlist with ⟨found, between, hfind, hrest⟩
      exact (Remote.on_bind_of_ok (find_congr hplain hfind)).trans hrest
    · intro entry hstat
      rcases Remote.of_on_bind_ok hstat with ⟨found, between, hfind, hrest⟩
      exact (Remote.on_bind_of_ok (find_congr hplain hfind)).trans hrest
  children := by
    intro path entries hnode hlist
    rcases listed hmirrors hsystem path with ⟨answer, hanswer, hlisted⟩
    rw [hanswer] at hlist
    cases hlist
    cases hlisted with
    | file _ hfile =>
        rw [hnode] at hfile
        cases hfile
    | directory _ _ _ =>
        constructor
        · refine List.pairwise_map.mpr
            ((FileTree.pairwise_namesBelow tree _).imp fun {a b} hlt => ?_)
          rw [childOf_name, childOf_name]
          exact Text.bytes_lt_bytes hlt
        · intro name
          have hself : (fun entry => entry.name) ∘
              childOf tree home system (plainNames path) = id :=
            funext fun name => childOf_name tree home system (plainNames path) name
          rw [<- mem_namesBelow_iff]
          change name ∈ List.map _ (List.map _ _) <-> _
          rw [List.map_map, hself, List.map_id]
  file := by
    intro path text haccepted hnode
    rcases not_refused_iff.mp haccepted with ⟨hup, _, hfits⟩
    exact ⟨_, list_file_on hmirrors hsystem hfits hup hnode,
      stat_on hmirrors hsystem hfits hup hnode⟩
  entries := by
    intro path entries hlist entry hentry
    rcases listed hmirrors hsystem path with ⟨answer, hanswer, hlisted⟩
    rw [hanswer] at hlist
    cases hlist
    cases hlisted with
    | file haccepted hnode =>
        rcases not_refused_iff.mp haccepted with ⟨hup, _, hfits⟩
        have heq := List.mem_singleton.mp hentry
        exact ⟨_, _, Or.inl rfl, hnode, heq, entry_found hmirrors hsystem hfits
          (fun name => isName_of_mem_plainNames hup) hnode heq⟩
    | directory haccepted _ hchildren =>
        rcases not_refused_iff.mp haccepted with ⟨hup, _, _⟩
        rcases List.mem_map.mp hentry with ⟨name, hname, rfl⟩
        rcases exists_child hmirrors (fun name => isName_of_mem_plainNames hup) hname with
          ⟨node, hchild, hall, heq⟩
        rw [childOf_name]
        exact ⟨_, _, Or.inr rfl, hchild, heq,
          entry_found hmirrors hsystem (hchildren name hname) hall hchild heq⟩

end View

/-!
## A sample
-/

namespace Sample

def shelf : FileTree where
  nodes := {
    entries := [
      (["mirror"], .directory), (["mirror", "project-abc"], .directory),
      (["mirror", "project-abc", "photo.jpg"], .file "data")]
    sorted := by decide +kernel }

theorem standing_shelf {place : List String} {name : String} {node : FileNode}
    (h : shelf.standing ["mirror"] (place ++ [name]) = some node) :
    (place = [] ∧ name = "project-abc" ∧ node = .directory) ∨
      (place = ["project-abc"] ∧ name = "photo.jpg" ∧ node = .file "data") := by
  rw [FileTree.standing_concat, OrderedMap.get?_eq_some_iff] at h
  have hsplit : forall (front : List String) {last : String},
      ["mirror"] ++ place ++ [name] = front ++ [last] ->
        ["mirror"] ++ place = front ∧ name = last := by
    intro front last heq
    rcases List.append_inj' heq rfl with ⟨hfront, hlast⟩
    exact ⟨hfront, (List.cons.inj hlast).1⟩
  rcases List.mem_cons.mp h with heq | h
  · have hfront := (hsplit [] (Prod.mk.inj heq).1).1
    cases hfront
  · rcases List.mem_cons.mp h with heq | h
    · rcases Prod.mk.inj heq with ⟨hkey, rfl⟩
      rcases hsplit ["mirror"] hkey with ⟨hfront, rfl⟩
      exact Or.inl ⟨(List.cons.inj hfront).2, rfl, rfl⟩
    · rcases Prod.mk.inj (List.mem_singleton.mp h) with ⟨hkey, rfl⟩
      rcases hsplit ["mirror", "project-abc"] hkey with ⟨hfront, rfl⟩
      exact Or.inr ⟨(List.cons.inj hfront).2, rfl, rfl⟩

theorem shelf_regular : shelf.Regular ["mirror"] where
  name := by
    intro place name node hnode
    rcases standing_shelf hnode with ⟨_, rfl, _⟩ | ⟨_, rfl, _⟩
    · exact ⟨⟨by decide, by decide, by decide, by decide⟩, by decide⟩
    · exact ⟨⟨by decide, by decide, by decide, by decide⟩, by decide⟩
  parent := by
    intro place name node hnode
    rcases standing_shelf hnode with ⟨rfl, _, _⟩ | ⟨rfl, _, _⟩
    · rfl
    · decide +kernel
  plain := by
    intro place target hlink
    rcases List.eq_nil_or_concat place with rfl | ⟨front, name, rfl⟩
    · cases hlink
    · rw [List.concat_eq_append] at hlink
      rcases standing_shelf hlink with ⟨_, _, heq⟩ | ⟨_, _, heq⟩ <;> cases heq

/-- Spellings of one root, which are as long as one likes. -/
def dotted : Nat -> String
  | 0 => "mirror"
  | n + 1 => dotted n ++ "/" ++ "."

theorem parts_dotted (n : Nat) : DiskPath.parts (dotted n) = "mirror" :: List.replicate n "." := by
  induction n with
  | zero => decide +kernel
  | succ n ih =>
      have hdot : DiskPath.parts "." = ["."] := by decide +kernel
      rw [dotted, DiskPath.parts_append_slash, ih, hdot, List.replicate_succ', List.cons_append]

theorem exists_toList_dotted (n : Nat) : exists rest, (dotted n).toList = 'm' :: rest := by
  induction n with
  | zero => exact ⟨_, rfl⟩
  | succ n ih =>
      rcases ih with ⟨rest, hrest⟩
      exact ⟨_, by rw [dotted, String.append_assoc, String.toList_append, hrest, List.cons_append]⟩

theorem utf8ByteSize_dotted (n : Nat) : (dotted n).utf8ByteSize = 6 + 2 * n := by
  induction n with
  | zero => decide
  | succ n ih =>
      have hslash : "/".utf8ByteSize = 1 := by decide
      have hdot : ".".utf8ByteSize = 1 := by decide
      rw [dotted, String.utf8ByteSize_append, String.utf8ByteSize_append, ih, hslash, hdot]
      omega

theorem walk_dots (tree : FileTree) (here : List String) (n : Nat) :
    tree.walk .visit here (List.replicate n ".") = .found here .directory := by
  induction n with
  | zero => rfl
  | succ n ih => exact ih

theorem shelf_mirrors (n : Nat) : Mirrors (dotted n) shelf ["mirror"] := by
  refine ⟨?_, shelf_regular⟩
  rcases exists_toList_dotted n with ⟨rest, hrest⟩
  have habsolute : DiskPath.isAbsolute (dotted n) = false := by
    rw [DiskPath.isAbsolute, hrest]
    rfl
  have hwalk : shelf.walk .visit [] ("mirror" :: List.replicate n ".") =
      .found ["mirror"] .directory :=
    (FileTree.walk_name ⟨by decide, by decide, by decide, by decide⟩ (by decide) [] _).trans
      (walk_dots shelf ["mirror"] n)
  rw [FileTree.leads, habsolute, parts_dotted, FileTree.locateFrom, if_neg Bool.false_ne_true,
    hwalk]

end Sample

theorem views_tree_sample :
    Coherent "mirror" Sample.shelf ["mirror"] "project-abc" ∧
      ((mirror "mirror").list "project-abc" "//./photo.jpg/").on Sample.shelf =
        (.ok [{ name := "photo.jpg", path := "photo.jpg", kind := .file, size := some 4 }],
          Sample.shelf) := by
  have hsystem : IsName "project-abc" := ⟨by decide, by decide, by decide, by decide⟩
  have hnode : Sample.shelf.standing ["mirror"] ("project-abc" :: plainNames "//./photo.jpg/") =
      some (.file "data") := by decide +kernel
  have hfits : Fits "mirror" "project-abc" (plainNames "//./photo.jpg/") := by
    unfold Fits
    decide +kernel
  refine ⟨views_tree (Sample.shelf_mirrors 0) hsystem, ?_⟩
  refine (list_file_on (Sample.shelf_mirrors 0) hsystem hfits (by decide) hnode).trans ?_
  have hentry : entryOf "project-abc" (plainNames "//./photo.jpg/") (.file "data") =
      { name := "photo.jpg", path := "photo.jpg", kind := .file, size := some 4 } := by
    decide +kernel
  rw [hentry]

/-- A path that is too long for the file system is refused although it leads to a directory. -/
theorem refused_when_too_long :
    Mirrors (Sample.dotted 2040) Sample.shelf ["mirror"] ∧
      (Sample.dotted 2040).utf8ByteSize ≤ longestPath ∧ IsName "project-abc" ∧
      leadsUp "/" = false ∧
      Sample.shelf.standing ["mirror"] ("project-abc" :: plainNames "/") = some .directory ∧
      ((mirror (Sample.dotted 2040)).list "project-abc" "/").on Sample.shelf =
        (.error (.notListable "project-abc" "/"), Sample.shelf) := by
  have hsystem : IsName "project-abc" := ⟨by decide, by decide, by decide, by decide⟩
  have hplace := DiskPath.le_utf8ByteSize_join (Sample.dotted 2040) hsystem
  have hname : "project-abc".utf8ByteSize = 11 := by decide
  rw [Sample.utf8ByteSize_dotted, hname] at hplace
  have hjoin : forall root, (mirror root).place "project-abc" (plainNames "/") =
      DiskPath.join root "project-abc" := fun root => rfl
  have hlong : ¬ Fits (Sample.dotted 2040) "project-abc" (plainNames "/") := by
    unfold Fits longestPath
    rw [hjoin]
    omega
  have hrefused : Refused (Sample.dotted 2040) Sample.shelf ["mirror"] "project-abc" "/" :=
    Or.inr (Or.inr hlong)
  refine ⟨Sample.shelf_mirrors 2040, ?_, hsystem, by decide, by decide +kernel, ?_⟩
  · rw [Sample.utf8ByteSize_dotted]
    unfold longestPath
    omega
  · exact (list_refused_iff (Sample.shelf_mirrors 2040) hsystem "/").mp hrefused

end DirectoryStorage
end Whereabouts
