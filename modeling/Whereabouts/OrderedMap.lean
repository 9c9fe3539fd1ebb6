/-!
# Ordered maps

A finite map with its keys in ascending order.  The order is part of the type,
so that two maps with the same look-ups are equal and every traversal has one
order.
-/

namespace Whereabouts

/-- A finite map, kept as a list of entries with ascending keys. -/
structure OrderedMap (κ : Type) (α : Type) [Ord κ] where
  entries : List (κ × α)
  sorted : entries.Pairwise (fun a b => compare a.1 b.1 = .lt)

namespace OrderedMap

variable {κ α β : Type} [Ord κ]

def empty : OrderedMap κ α where
  entries := []
  sorted := .nil

instance : Inhabited (OrderedMap κ α) := ⟨empty⟩

instance [DecidableEq κ] [DecidableEq α] : DecidableEq (OrderedMap κ α) := fun a b =>
  if h : a.entries = b.entries then
    isTrue (by cases a; cases b; simp_all)
  else
    isFalse (fun e => h (e ▸ rfl))

def find (key : κ) : List (κ × α) -> Option α
  | [] => none
  | (k, v) :: rest =>
      match compare key k with
      | .eq => some v
      | .lt => none
      | .gt => find key rest

def get? (map : OrderedMap κ α) (key : κ) : Option α :=
  find key map.entries

def contains (map : OrderedMap κ α) (key : κ) : Bool :=
  (map.get? key).isSome

/-- Puts a value into a list of entries with ascending keys. -/
def put (key : κ) (value : α) : List (κ × α) -> List (κ × α)
  | [] => [(key, value)]
  | (k, v) :: rest =>
      match compare key k with
      | .lt => (key, value) :: (k, v) :: rest
      | .eq => (key, value) :: rest
      | .gt => (k, v) :: put key value rest

theorem mem_put {key : κ} {value : α} {entries : List (κ × α)} {entry : κ × α}
    (h : entry ∈ put key value entries) : entry = (key, value) ∨ entry ∈ entries := by
  induction entries with
  | nil => simpa [put] using h
  | cons first rest ih =>
      obtain ⟨k, v⟩ := first
      unfold put at h
      split at h
      · simpa using h
      · rcases List.mem_cons.1 h with h | h
        · exact .inl h
        · exact .inr (List.mem_cons_of_mem _ h)
      · rcases List.mem_cons.1 h with h | h
        · exact .inr (h ▸ List.mem_cons_self ..)
        · exact (ih h).imp_right (List.mem_cons_of_mem _)

theorem pairwise_put [Std.TransOrd κ] [Std.LawfulEqOrd κ] (key : κ) (value : α)
    {entries : List (κ × α)}
    (h : entries.Pairwise (fun a b => compare a.1 b.1 = .lt)) :
    (put key value entries).Pairwise (fun a b => compare a.1 b.1 = .lt) := by
  induction entries with
  | nil => simp [put]
  | cons first rest ih =>
      obtain ⟨k, v⟩ := first
      obtain ⟨hfirst, hrest⟩ := List.pairwise_cons.1 h
      unfold put
      split
      · rename_i hlt
        refine List.pairwise_cons.2 ⟨fun entry hentry => ?_, h⟩
        rcases List.mem_cons.1 hentry with rfl | hentry
        · exact hlt
        · exact Std.TransCmp.lt_trans hlt (hfirst entry hentry)
      · rename_i heq
        refine List.pairwise_cons.2 ⟨fun entry hentry => ?_, hrest⟩
        rw [Std.LawfulEqCmp.eq_of_compare heq]
        exact hfirst entry hentry
      · rename_i hgt
        refine List.pairwise_cons.2 ⟨fun entry hentry => ?_, ih hrest⟩
        rcases mem_put hentry with rfl | hentry
        · exact Std.OrientedCmp.lt_of_gt hgt
        · exact hfirst entry hentry

variable [Std.TransOrd κ] [Std.LawfulEqOrd κ]

def insert (map : OrderedMap κ α) (key : κ) (value : α) : OrderedMap κ α where
  entries := put key value map.entries
  sorted := pairwise_put key value map.sorted

/-- The map of a list of entries; of two entries with one key the later stays. -/
def ofList (entries : List (κ × α)) : OrderedMap κ α :=
  entries.foldl (fun map entry => map.insert entry.1 entry.2) empty

omit [Std.TransOrd κ] [Std.LawfulEqOrd κ] in
theorem pairwise_map (f : κ -> α -> β) {entries : List (κ × α)}
    (h : entries.Pairwise (fun a b => compare a.1 b.1 = .lt)) :
    (entries.map fun entry => (entry.1, f entry.1 entry.2)).Pairwise
      (fun a b => compare a.1 b.1 = .lt) := by
  rw [List.pairwise_map]
  exact h

omit [Std.TransOrd κ] [Std.LawfulEqOrd κ] in
def mapValues (map : OrderedMap κ α) (f : κ -> α -> β) : OrderedMap κ β where
  entries := map.entries.map fun entry => (entry.1, f entry.1 entry.2)
  sorted := pairwise_map f map.sorted

/-- The map with the value under `key`, if there is one, replaced by what `f`
makes of it. -/
def modify (map : OrderedMap κ α) (key : κ) (f : α -> α) : OrderedMap κ α :=
  match map.get? key with
  | some value => map.insert key (f value)
  | none => map

/-- The map with the value under `key` replaced by what `f` makes of it, where
`f none` is stored for a new key. -/
def alter (map : OrderedMap κ α) (key : κ) (f : Option α -> α) : OrderedMap κ α :=
  map.insert key (f (map.get? key))

def erase (map : OrderedMap κ α) (key : κ) : OrderedMap κ α where
  entries := map.entries.filter fun entry => compare entry.1 key != .eq
  sorted := map.sorted.filter _

/-- The keys, in ascending order. -/
def keys (map : OrderedMap κ α) : List κ :=
  map.entries.map Prod.fst

/-- The values, in the order of their keys. -/
def values (map : OrderedMap κ α) : List α :=
  map.entries.map Prod.snd

def size (map : OrderedMap κ α) : Nat :=
  map.entries.length

def isEmpty (map : OrderedMap κ α) : Bool :=
  map.entries.isEmpty

end OrderedMap

/-- A table with its rows under their ids. -/
abbrev Table (α : Type) := OrderedMap Int64 α

end Whereabouts
