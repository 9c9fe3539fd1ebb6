import Whereabouts.FileIndex.Survey
import Whereabouts.Proofs.OrderedMap

/-!
# Look-ups in file indices

What every change of an index does to the paths under a name and to the counters.
Putting an index at the end of another one and then adding to it is the same as
adding to it first, so that an index of a directory may be built in one go or from
the indices of its parts.
-/

namespace Whereabouts

theorem IndexCounts.add_assoc (a b c : IndexCounts) : (a.add b).add c = a.add (b.add c) := by
  simp [add, Nat.add_assoc]

namespace FileIndex

variable {entries : OrderedMap String (List String)} {index other : FileIndex}
  {name system : String}

/-!
## Paths under a name
-/

/-- The paths under a name with more paths behind them, where there are any. -/
def joined (old new : Option (List String)) : Option (List String) :=
  match new with
  | none => old
  | some paths => some (old.getD [] ++ paths)

@[simp] theorem joined_none (old : Option (List String)) : joined old none = old := rfl

@[simp] theorem joined_some (old : Option (List String)) (paths : List String) :
    joined old (some paths) = some (old.getD [] ++ paths) := rfl

theorem joined_assoc (a b c : Option (List String)) :
    joined (joined a b) c = joined a (joined b c) := by
  cases c with
  | none => rfl
  | some last => cases b <;> simp [List.append_assoc]

theorem get?_extend (entries : OrderedMap String (List String)) (name other : String)
    (paths : List String) :
    (extend entries name paths).get? other =
      if other = name then joined (entries.get? other) (some paths)
      else entries.get? other := by
  unfold extend OrderedMap.alter
  rw [OrderedMap.get?_insert]
  split
  · rename_i heq
    rw [heq, joined_some]
  · rfl

theorem get?_foldl_extend {added : List (String × List String)}
    (hsorted : added.Pairwise (fun a b => compare a.1 b.1 = .lt)) (name : String) :
    (added.foldl (fun entries entry => extend entries entry.1 entry.2) entries).get? name =
      joined (entries.get? name) (OrderedMap.find name added) := by
  induction added generalizing entries with
  | nil => rfl
  | cons first rest ih =>
      have hrest := (List.pairwise_cons.mp hsorted).2
      rw [List.foldl_cons, ih hrest, get?_extend]
      by_cases hname : name = first.1
      · have hfirst : OrderedMap.find name (first :: rest) = some first.2 := by
          rw [OrderedMap.find_eq_some_iff hsorted, hname]
          exact List.mem_cons_self
        have hnone : OrderedMap.find name rest = none := by
          cases hfind : OrderedMap.find name rest with
          | none => rfl
          | some paths =>
              have hmem := (OrderedMap.find_eq_some_iff hrest).mp hfind
              have hlt := (List.pairwise_cons.mp hsorted).1 _ hmem
              exact absurd hname.symm (OrderedMap.ne_of_compare_lt hlt)
        rw [if_pos hname, hfirst, hnone]
        rfl
      · have hfind : OrderedMap.find name (first :: rest) = OrderedMap.find name rest := by
          ext paths
          rw [OrderedMap.find_eq_some_iff hsorted, OrderedMap.find_eq_some_iff hrest,
            List.mem_cons]
          constructor
          · intro hmem
            rcases hmem with hfirst | hmem
            · exact absurd (congrArg Prod.fst hfirst) hname
            · exact hmem
          · exact Or.inr
        rw [if_neg hname, hfind]

@[simp] theorem get?_empty (system name : String) : (empty system).get? name = none := rfl

theorem get?_insert (index : FileIndex) (name path other : String) :
    (index.insert name path).get? other =
      if other = name then joined (index.get? other) (some [RemotePath.relative path])
      else index.get? other :=
  get?_extend index.entries name other [RemotePath.relative path]

theorem get?_merge (index other : FileIndex) (name : String) :
    (index.merge other).get? name = joined (index.get? name) (other.get? name) :=
  get?_foldl_extend other.entries.sorted name

theorem ext_get? (hsystem : index.system = other.system)
    (hget : forall name, index.get? name = other.get? name)
    (hstats : index.stats = other.stats) : index = other := by
  have hentries : index.entries = other.entries := OrderedMap.ext_get? hget
  cases index
  cases other
  cases hsystem
  cases hentries
  cases hstats
  rfl

/-!
## What surveys count
-/

def nameOf (entry : Entry) : String :=
  (RemotePath.fileName? entry.path).getD entry.name

@[simp] theorem get?_countDirectory (index : FileIndex) (name : String) :
    index.countDirectory.get? name = index.get? name := rfl

@[simp] theorem get?_countTrash (index : FileIndex) (name : String) :
    index.countTrash.get? name = index.get? name := rfl

@[simp] theorem get?_countSkipped (index : FileIndex) (name : String) :
    index.countSkipped.get? name = index.get? name := rfl

theorem get?_insertFile (index : FileIndex) (entry : Entry) (name : String) :
    (index.insertFile entry).get? name =
      if name = nameOf entry then
        joined (index.get? name) (some [RemotePath.relative entry.path])
      else index.get? name :=
  get?_insert index (nameOf entry) entry.path name

theorem merge_countDirectory (index other : FileIndex) :
    index.merge other.countDirectory = (index.merge other).countDirectory := rfl

theorem merge_countTrash (index other : FileIndex) :
    index.merge other.countTrash = (index.merge other).countTrash := rfl

theorem merge_countSkipped (index other : FileIndex) :
    index.merge other.countSkipped = (index.merge other).countSkipped := rfl

theorem merge_insertFile (index other : FileIndex) (entry : Entry) :
    index.merge (other.insertFile entry) = (index.merge other).insertFile entry := by
  refine ext_get? rfl ?_ rfl
  intro name
  rw [get?_merge, get?_insertFile, get?_insertFile, get?_merge]
  split
  · exact (joined_assoc _ _ _).symm
  · rfl

end FileIndex
end Whereabouts
