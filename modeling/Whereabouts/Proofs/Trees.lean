import Whereabouts.Disk.Tree
import Whereabouts.Proofs.DiskPaths
import Whereabouts.Proofs.OrderedMap

/-!
# Walks in trees

A walk that comes to a directory goes on from there.  Below a directory that holds only
files and directories, a walk along names finds what stands at the place of that name,
and the names in a directory come in ascending order.
-/

namespace Whereabouts
namespace FileTree

open RemotePath (IsName)

variable {tree : FileTree} {here place names more rest : List String} {name : String}

/-!
## Walks in two parts
-/

/-- Whether a walk cannot go on where it came to. -/
def Arrival.IsEnd : Arrival -> Prop
  | .found _ .directory => False
  | .detour _ _ _ => False
  | _ => True

/-- A name leads to a directory, to a link, or to where the walk ends. -/
theorem walk_step (tree : FileTree) (here : List String) (name : String) :
    (exists next, forall rest, tree.walk .visit here (name :: rest) = tree.walk .visit next rest) ∨
    (exists target, forall rest,
      tree.walk .visit here (name :: rest) = .detour here target rest) ∨
    forall rest, (tree.walk .visit here (name :: rest)).IsEnd := by
  simp only [walk]
  by_cases hhere : (name == "." || name == "") = true
  · exact Or.inl ⟨here, fun rest => if_pos hhere⟩
  · simp only [hhere]
    by_cases hup : (name == "..") = true
    · exact Or.inl ⟨outside here, fun rest => if_pos hup⟩
    · simp only [hup]
      by_cases hlong : longestName < name.utf8ByteSize
      · refine Or.inr (Or.inr fun rest => ?_)
        simp [hlong, Arrival.IsEnd]
      · simp only [hlong]
        cases hnode : tree.node? (here ++ [name]) with
        | none =>
            refine Or.inr (Or.inr fun rest => ?_)
            cases rest <;> trivial
        | some node =>
            cases node with
            | directory => exact Or.inl ⟨here ++ [name], fun rest => by simp⟩
            | link target => exact Or.inr (Or.inl ⟨target, fun rest => by simp⟩)
            | file text =>
                refine Or.inr (Or.inr fun rest => ?_)
                cases rest <;> trivial

theorem walk_append_of_directory (h : tree.walk .visit here names = .found place .directory)
    (more : List String) : tree.walk .visit here (names ++ more) = tree.walk .visit place more := by
  induction names generalizing here with
  | nil =>
      cases h
      rfl
  | cons name rest ih =>
      rw [List.cons_append]
      rcases walk_step tree here name with ⟨next, hnext⟩ | ⟨target, hlink⟩ | hend
      · rw [hnext] at h ⊢
        exact ih h
      · rw [hlink] at h
        cases h
      · have hends := hend rest
        rw [h] at hends
        cases hends

theorem walk_append_of_detour {directory : List String} {target : String}
    (h : tree.walk .visit here names = .detour directory target rest) (more : List String) :
    tree.walk .visit here (names ++ more) = .detour directory target (rest ++ more) := by
  induction names generalizing here with
  | nil => cases h
  | cons name others ih =>
      rw [List.cons_append]
      rcases walk_step tree here name with ⟨next, hnext⟩ | ⟨other, hlink⟩ | hend
      · rw [hnext] at h ⊢
        exact ih h
      · rw [hlink] at h ⊢
        cases h
        rfl
      · have hends := hend others
        rw [h] at hends
        cases hends

/-- Walking on from a directory that links may lead to. -/
theorem locateFrom_append {links : Nat}
    (h : tree.locateFrom .visit links here names = .found place .directory) :
    exists left, forall more, tree.locateFrom .visit links here (names ++ more) =
      tree.locateFrom .visit (left + 1) place more := by
  -- On the links that may still be followed: each detour takes up one of them.
  induction links generalizing here names with
  | zero => cases h
  | succ links ih =>
      rw [locateFrom] at h
      cases hwalk : tree.walk .visit here names with
      | detour directory target rest =>
          rw [hwalk] at h
          rcases ih h with ⟨left, hleft⟩
          refine ⟨left, fun more => ?_⟩
          rw [locateFrom, walk_append_of_detour hwalk more]
          dsimp only
          rw [<- List.append_assoc, hleft]
      | found other node =>
          rw [hwalk] at h
          cases h
          refine ⟨links, fun more => ?_⟩
          rw [locateFrom, locateFrom, walk_append_of_directory hwalk more]
      | vacant other =>
          rw [hwalk] at h
          cases h
      | failed failure =>
          rw [hwalk] at h
          cases h

/-!
## Below a directory
-/

/-- What stands below a directory under some names; under no names it is itself. -/
def standing (tree : FileTree) (home names : List String) : Option FileNode :=
  if names = [] then some .directory else tree.nodes.get? (home ++ names)

/-- A directory with files and directories below it, as they can be kept: each stands in
a directory under a name of its own, which is not too long. -/
structure Regular (tree : FileTree) (home : List String) : Prop where
  name : forall place name node, tree.standing home (place ++ [name]) = some node ->
    IsName name ∧ name.utf8ByteSize ≤ longestName
  parent : forall place name node, tree.standing home (place ++ [name]) = some node ->
    tree.standing home place = some .directory
  plain : forall place target, tree.standing home place ≠ some (.link target)

section Below

variable {home : List String} {node : FileNode}

theorem standing_concat (tree : FileTree) (home place : List String) (name : String) :
    tree.standing home (place ++ [name]) = tree.nodes.get? (home ++ place ++ [name]) := by
  rw [standing, if_neg (List.append_ne_nil_of_right_ne_nil _ (List.cons_ne_nil _ _)),
    List.append_assoc]

theorem node?_concat (hname : IsName name) (place : List String) :
    tree.node? (place ++ [name]) = tree.nodes.get? (place ++ [name]) := by
  have habove : isAbove (place ++ [name]) = false := by
    rw [isAbove, List.all_append]
    simp [hname.ne_up]
  have hroot : place ++ [name] ≠ ["/"] := by
    intro heq
    have hslash : name = "/" := by
      have hlast := congrArg List.getLast? heq
      simpa using hlast
    exact hname.no_slash (hslash ▸ by decide)
  rw [node?, habove, Bool.false_or, if_neg (by simpa using hroot)]

theorem Regular.directory (h : tree.Regular home) (hne : names ≠ [])
    (hnode : tree.standing home (place ++ names) = some node) :
    tree.standing home place = some .directory := by
  induction names generalizing place with
  | nil => exact absurd rfl hne
  | cons name rest ih =>
      by_cases hnil : rest = []
      · rw [hnil] at hnode
        exact h.parent place name node hnode
      · rw [List.append_cons] at hnode
        exact h.parent place name .directory (ih hnil hnode)

theorem walk_name (hname : IsName name) (hshort : name.utf8ByteSize ≤ longestName)
    (here rest : List String) :
    tree.walk .visit here (name :: rest) =
      match tree.nodes.get? (here ++ [name]) with
      | some .directory => tree.walk .visit (here ++ [name]) rest
      | some (.link target) => .detour here target rest
      | some (.file text) =>
          if rest.isEmpty then .found (here ++ [name]) (.file text) else .failed .notDirectory
      | none => if rest.isEmpty then .vacant (here ++ [name]) else .failed .missing := by
  rw [walk]
  rcases hnode : tree.nodes.get? (here ++ [name]) with _ | (_ | _ | _) <;>
    simp [hname.ne_here, hname.ne_empty, hname.ne_up, Nat.not_lt.mpr hshort, node?_concat hname,
      hnode]

theorem Regular.walk_found (h : tree.Regular home)
    (hnode : tree.standing home (place ++ names) = some node)
    (hnil : names = [] -> node = .directory) :
    tree.walk .visit (home ++ place) names = .found (home ++ place ++ names) node := by
  induction names generalizing place with
  | nil =>
      rw [hnil rfl, List.append_nil]
      rfl
  | cons name rest ih =>
      rw [List.append_cons] at hnode ⊢
      cases rest with
      | nil =>
          rw [List.append_nil] at hnode
          rcases h.name place name node hnode with ⟨hname, hshort⟩
          rw [walk_name hname hshort, <- standing_concat, hnode, List.append_nil]
          cases node with
          | file text => rfl
          | directory => rfl
          | link target => exact absurd hnode (h.plain _ target)
      | cons next others =>
          have hown := h.directory (List.cons_ne_nil _ _) hnode
          rcases h.name place name .directory hown with ⟨hname, hshort⟩
          rw [walk_name hname hshort, <- standing_concat, hown]
          have hrest := ih hnode fun heq => nomatch heq
          rwa [<- List.append_assoc] at hrest

theorem Regular.walk_void (h : tree.Regular home)
    (hnames : forall name, name ∈ names -> IsName name)
    (hdirectory : tree.standing home place = some .directory)
    (hnone : tree.standing home (place ++ names) = none) :
    (exists vacancy, tree.walk .visit (home ++ place) names = .vacant vacancy) ∨
      exists failure, tree.walk .visit (home ++ place) names = .failed failure := by
  -- The walk goes on as long as there are directories; what it meets then ends it.
  induction names generalizing place with
  | nil =>
      rw [List.append_nil, hdirectory] at hnone
      cases hnone
  | cons name rest ih =>
      have hname := hnames name List.mem_cons_self
      by_cases hlong : longestName < name.utf8ByteSize
      · refine Or.inr ⟨.nameTooLong, ?_⟩
        rw [walk]
        simp [hname.ne_here, hname.ne_empty, hname.ne_up, hlong]
      · rw [List.append_cons] at hnone
        rw [walk_name hname (Nat.not_lt.mp hlong), <- standing_concat]
        cases hown : tree.standing home (place ++ [name]) with
        | none => cases rest <;> simp
        | some node =>
            cases node with
            | directory =>
                have hrest := ih (fun other hother => hnames other (List.mem_cons_of_mem _ hother))
                  hown hnone
                rwa [<- List.append_assoc] at hrest
            | link target => exact absurd hown (h.plain _ target)
            | file text =>
                cases rest with
                | nil =>
                    rw [List.append_nil, hown] at hnone
                    cases hnone
                | cons next others => simp

/-- Where the parts of a path lead to. -/
def leads (tree : FileTree) (path : String) : Arrival :=
  tree.locateFrom .visit 41 (if DiskPath.isAbsolute path then ["/"] else []) (DiskPath.parts path)

theorem exists_locate {root : String} (hroot : tree.leads root = .found home .directory)
    (hnames : forall name, name ∈ names -> IsName name) (hne : names ≠ []) :
    exists links, tree.locate .visit (names.foldl DiskPath.join root) =
      if longestPath < (names.foldl DiskPath.join root).utf8ByteSize then .failed .nameTooLong
      else tree.locateFrom .visit (links + 1) home names := by
  rcases DiskPath.exists_foldl_join root hnames hne with ⟨front, hpath, hlast⟩
  have hempty : names.foldl DiskPath.join root ≠ "" := by
    rw [hpath]
    exact DiskPath.join_ne_empty front hlast
  rcases locateFrom_append hroot with ⟨left, hleft⟩
  refine ⟨left, ?_⟩
  rw [locate, if_neg (by simpa using hempty), DiskPath.steps_foldl_join root hnames hne,
    DiskPath.isAbsolute_foldl_join root hnames, hleft]

theorem find_of_too_long {path : String} (h : longestPath < path.utf8ByteSize) :
    exists failure, tree.find path = .error failure := by
  have hlocate : exists failure, tree.locate .visit path = .failed failure := by
    rw [locate, if_pos h]
    split <;> exact ⟨_, rfl⟩
  rcases hlocate with ⟨failure, hlocate⟩
  exact ⟨failure, by rw [find, hlocate]⟩

/-- What stands under names below a directory is found where the path is not too long, and
nothing else is found. -/
theorem find_below {root : String} (hroot : tree.leads root = .found home .directory)
    (h : tree.Regular home) (hnames : forall name, name ∈ names -> IsName name) (hne : names ≠ []) :
    (forall node, tree.standing home names = some node ->
      (names.foldl DiskPath.join root).utf8ByteSize ≤ longestPath ->
      tree.find (names.foldl DiskPath.join root) = .ok (home ++ names, node)) ∧
    (tree.standing home names = none ->
      exists failure, tree.find (names.foldl DiskPath.join root) = .error failure) := by
  rcases exists_locate hroot hnames hne with ⟨links, hlocate⟩
  constructor
  · intro node hnode hfits
    have hwalk : tree.walk .visit (home ++ []) names = .found (home ++ [] ++ names) node :=
      h.walk_found hnode fun hnil => absurd hnil hne
    rw [List.append_nil] at hwalk
    rw [find, hlocate, if_neg (Nat.not_lt.mpr hfits), locateFrom, hwalk]
  · intro hnone
    have hstart : tree.standing home ([] ++ names) = none := hnone
    have hwalk := h.walk_void hnames rfl hstart
    rw [List.append_nil] at hwalk
    rw [find, hlocate, locateFrom]
    by_cases hlong : longestPath < (names.foldl DiskPath.join root).utf8ByteSize
    · rw [if_pos hlong]
      exact ⟨_, rfl⟩
    · rw [if_neg hlong]
      rcases hwalk with ⟨vacancy, hwalk⟩ | ⟨failure, hwalk⟩ <;> rw [hwalk] <;> exact ⟨_, rfl⟩

end Below

def kindOf : FileNode -> FileKind
  | .file text => .file text.utf8ByteSize
  | _ => .directory

theorem inspect_of_find {path : String} {node : FileNode} (h : tree.find path = .ok (place, node)) :
    tree.inspect path = .ok (kindOf node) := by
  rw [inspect, h]
  cases node <;> rfl

theorem inspect_of_find_error {path : String} {failure : DiskError}
    (h : tree.find path = .error failure) : tree.inspect path = .error failure := by
  rw [inspect, h]

/-!
## Names in a directory
-/

theorem compare_cons (name : String) (a b : List String) :
    compare (name :: a) (name :: b) = compare a b := by
  rw [List.compare_eq_compareLex, List.compareLex_cons_cons, Std.ReflOrd.compare_self]
  rfl

theorem compare_append (front a b : List String) :
    compare (front ++ a) (front ++ b) = compare a b := by
  induction front with
  | nil => rfl
  | cons name rest ih => rw [List.cons_append, List.cons_append, compare_cons, ih]

theorem lt_of_compare_concat {x y : String} (h : compare (place ++ [x]) (place ++ [y]) = .lt) :
    x < y := by
  rw [compare_append, List.compare_eq_compareLex, List.compareLex_cons_cons,
    List.compareLex_nil_nil] at h
  cases hxy : compare x y with
  | lt => exact compareOfLessAndEq_eq_lt.mp hxy
  | eq => rw [hxy] at h; cases h
  | gt => rw [hxy] at h; cases h

theorem eq_concat_of_namesBelow {key : List String}
    (h : (match key.getLast? with
      | some name => if key.dropLast = place then some name else none
      | none => none) = some name) : key = place ++ [name] := by
  split at h
  · rename_i last hlast
    rcases List.getLast?_eq_some_iff.mp hlast with ⟨front, rfl⟩
    rw [List.dropLast_concat] at h
    split at h
    · rename_i hfront
      cases h
      rw [hfront]
    · cases h
  · cases h

theorem mem_namesBelow (tree : FileTree) (place : List String) (name : String) :
    name ∈ tree.namesBelow place <-> (tree.nodes.get? (place ++ [name])).isSome = true := by
  rw [namesBelow, List.mem_filterMap, Option.isSome_iff_exists]
  constructor
  · rintro ⟨key, hkey, hname⟩
    rcases List.mem_map.mp hkey with ⟨⟨_, node⟩, hentry, rfl⟩
    rw [<- eq_concat_of_namesBelow hname]
    exact ⟨node, OrderedMap.get?_eq_some_iff.mpr hentry⟩
  · rintro ⟨node, hnode⟩
    refine ⟨place ++ [name], List.mem_map.mpr ⟨_, OrderedMap.get?_eq_some_iff.mp hnode, rfl⟩, ?_⟩
    simp

theorem pairwise_namesBelow (tree : FileTree) (place : List String) :
    (tree.namesBelow place).Pairwise (· < ·) := by
  rw [namesBelow, List.pairwise_filterMap, OrderedMap.keys, List.pairwise_map]
  refine tree.nodes.sorted.imp fun {a b} hlt x hx y hy => ?_
  rw [eq_concat_of_namesBelow hx, eq_concat_of_namesBelow hy] at hlt
  exact lt_of_compare_concat hlt

end FileTree
end Whereabouts
