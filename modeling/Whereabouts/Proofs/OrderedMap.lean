import Whereabouts.OrderedMap

/-!
# Look-ups in ordered maps

What every operation on an ordered map does to look-ups, and that look-ups tell
everything about a map.
-/

namespace Whereabouts
namespace OrderedMap

variable {κ α β : Type} [Ord κ] [Std.TransOrd κ] [Std.LawfulEqOrd κ]

/-!
## Entries

A look-up in a list of entries with ascending keys finds exactly the entries of
the list.
-/

omit [Std.LawfulEqOrd κ] in
theorem ne_of_compare_lt {a b : κ} (h : compare a b = .lt) : a ≠ b := by
  intro heq
  rw [heq, Std.ReflOrd.compare_self] at h
  cases h

omit [Std.LawfulEqOrd κ] in
theorem ne_of_compare_gt {a b : κ} (h : compare a b = .gt) : a ≠ b := by
  intro heq
  rw [heq, Std.ReflOrd.compare_self] at h
  cases h

theorem find_eq_some_iff {key : κ} {value : α} {entries : List (κ × α)}
    (h : entries.Pairwise (fun a b => compare a.1 b.1 = .lt)) :
    find key entries = some value <-> (key, value) ∈ entries := by
  induction entries with
  | nil => simp [find]
  | cons first rest ih =>
      rcases first with ⟨k, v⟩
      rcases List.pairwise_cons.mp h with ⟨hfirst, hrest⟩
      have hih := ih hrest
      cases hcmp : compare key k with
      | eq =>
          have hkey : key = k := Std.LawfulEqCmp.eq_of_compare hcmp
          subst hkey
          have hnot : forall w, (key, w) ∉ rest := by
            intro w hw
            exact ne_of_compare_lt (hfirst (key, w) hw) rfl
          simp [find, hnot, eq_comm]
      | lt =>
          have hne : key ≠ k := ne_of_compare_lt hcmp
          have hnot : (key, value) ∉ rest := by
            intro hmem
            exact ne_of_compare_lt (Std.TransCmp.lt_trans hcmp (hfirst _ hmem)) rfl
          simp [find, hcmp, hne, hnot]
      | gt =>
          have hne : key ≠ k := ne_of_compare_gt hcmp
          simp [find, hcmp, hne, hih]

theorem get?_eq_some_iff {map : OrderedMap κ α} {key : κ} {value : α} :
    map.get? key = some value <-> (key, value) ∈ map.entries :=
  find_eq_some_iff map.sorted

theorem mem_values_iff {map : OrderedMap κ α} {value : α} :
    value ∈ map.values <-> exists key, map.get? key = some value := by
  simp [values, get?_eq_some_iff]

omit [Std.LawfulEqOrd κ] in
theorem nodup_entries (map : OrderedMap κ α) : map.entries.Nodup := by
  refine map.sorted.imp ?_
  intro a b hlt heq
  exact ne_of_compare_lt hlt (congrArg Prod.fst heq)

omit [Std.LawfulEqOrd κ] in
theorem nodup_keys (map : OrderedMap κ α) : map.keys.Nodup := by
  refine List.pairwise_map.mpr (map.sorted.imp ?_)
  intro a b hlt
  exact ne_of_compare_lt hlt

theorem ext_get? {a b : OrderedMap κ α} (h : forall key, a.get? key = b.get? key) :
    a = b := by
  have hperm : a.entries.Perm b.entries := by
    rw [List.perm_ext_iff_of_nodup a.nodup_entries b.nodup_entries]
    intro entry
    rw [<- @get?_eq_some_iff _ _ _ _ _ a entry.1 entry.2, h entry.1]
    exact get?_eq_some_iff
  have hentries : a.entries = b.entries := by
    refine hperm.eq_of_pairwise ?_ a.sorted b.sorted
    intro x y _ _ hxy hyx
    exact absurd rfl (ne_of_compare_lt (Std.TransCmp.lt_trans hxy hyx))
  cases a
  cases b
  cases hentries
  rfl

/-!
## Operations
-/

omit [Std.TransOrd κ] [Std.LawfulEqOrd κ] in
@[simp] theorem get?_empty (key : κ) : (empty : OrderedMap κ α).get? key = none := rfl

omit [Std.TransOrd κ] in
theorem find_put_self (key : κ) (value : α) (entries : List (κ × α)) :
    find key (put key value entries) = some value := by
  induction entries with
  | nil => simp [put, find]
  | cons first rest ih =>
      rcases first with ⟨k, v⟩
      cases hcmp : compare key k with
      | lt => simp [put, find, hcmp]
      | eq => simp [put, find, hcmp]
      | gt => simp [put, find, hcmp, ih]

theorem find_put_of_ne {key other : κ} (hne : other ≠ key) (value : α)
    (entries : List (κ × α)) :
    find other (put key value entries) = find other entries := by
  have hother : compare other key ≠ .eq := by
    intro heq
    exact hne (Std.LawfulEqCmp.eq_of_compare heq)
  induction entries with
  | nil =>
      cases hcmp : compare other key with
      | eq => exact absurd hcmp hother
      | lt => simp [put, find, hcmp]
      | gt => simp [put, find, hcmp]
  | cons first rest ih =>
      rcases first with ⟨k, v⟩
      cases hkey : compare key k with
      | eq =>
          have heq : key = k := Std.LawfulEqCmp.eq_of_compare hkey
          subst heq
          cases hcmp : compare other key with
          | eq => exact absurd hcmp hother
          | lt => simp [put, find, hcmp]
          | gt => simp [put, find, hcmp]
      | lt =>
          cases hcmp : compare other key with
          | eq => exact absurd hcmp hother
          | lt =>
              have hk : compare other k = .lt := Std.TransCmp.lt_trans hcmp hkey
              simp [put, find, hkey, hcmp, hk]
          | gt => simp [put, find, hkey, hcmp]
      | gt => simp [put, find, hkey, ih]

theorem get?_insert [DecidableEq κ] (map : OrderedMap κ α) (key other : κ) (value : α) :
    (map.insert key value).get? other =
      if other = key then some value else map.get? other := by
  by_cases h : other = key
  · rw [if_pos h, h]
    exact find_put_self key value map.entries
  · rw [if_neg h]
    exact find_put_of_ne h value map.entries

@[simp] theorem get?_insert_self (map : OrderedMap κ α) (key : κ) (value : α) :
    (map.insert key value).get? key = some value :=
  find_put_self key value map.entries

theorem get?_insert_of_ne (map : OrderedMap κ α) {key other : κ} (value : α)
    (hne : other ≠ key) : (map.insert key value).get? other = map.get? other :=
  find_put_of_ne hne value map.entries

theorem forall_get?_insert {map : OrderedMap κ α} {P : κ -> α -> Prop} {key : κ} {value : α}
    (h : forall k v, map.get? k = some v -> P k v) (hnew : P key value) :
    forall k v, (map.insert key value).get? k = some v -> P k v := by
  intro k v hv
  by_cases hk : k = key
  · rw [hk, get?_insert_self] at hv
    cases hv
    rw [hk]
    exact hnew
  · rw [get?_insert_of_ne _ _ hk] at hv
    exact h k v hv

theorem get?_modify [DecidableEq κ] (map : OrderedMap κ α) (key other : κ) (f : α -> α) :
    (map.modify key f).get? other =
      if other = key then (map.get? other).map f else map.get? other := by
  unfold modify
  cases h : map.get? key with
  | none =>
      by_cases heq : other = key
      · simp [heq, h]
      · simp [heq]
  | some value =>
      by_cases heq : other = key
      · simp [heq, h]
      · simp [heq, get?_insert]

omit [Std.TransOrd κ] in
theorem get?_mapValues (map : OrderedMap κ α) (f : κ -> α -> β) (key : κ) :
    (map.mapValues f).get? key = (map.get? key).map (f key) := by
  rcases map with ⟨entries, hsorted⟩
  show find key (entries.map fun entry => (entry.1, f entry.1 entry.2)) =
    (find key entries).map (f key)
  induction entries with
  | nil => rfl
  | cons first rest ih =>
      rcases first with ⟨k, v⟩
      rw [List.map_cons, find, find, ih (List.pairwise_cons.mp hsorted).2]
      cases hcmp : compare key k with
      | eq =>
          have hkey : key = k := Std.LawfulEqCmp.eq_of_compare hcmp
          rw [hkey]
          rfl
      | lt => rfl
      | gt => rfl

theorem find?_insert_of_find? {map : OrderedMap κ α} {test : α -> Bool} {key : κ}
    {old value : α} (hold : map.entries.find? (fun entry => test entry.2) = some (key, old))
    (hvalue : test value = true) :
    (map.insert key value).entries.find? (fun entry => test entry.2) = some (key, value) := by
  rcases map with ⟨entries, hsorted⟩
  show (put key value entries).find? _ = _
  induction entries with
  | nil => cases hold
  | cons first rest ih =>
      rcases first with ⟨k, v⟩
      rcases List.pairwise_cons.mp hsorted with ⟨hfirst, hrest⟩
      cases htest : test v with
      | true =>
          rw [List.find?_cons_of_pos (by simpa using htest)] at hold
          cases hold
          simp [put, hvalue]
      | false =>
          rw [List.find?_cons_of_neg (by simp [htest])] at hold
          have hlt := hfirst (key, old) (List.mem_of_find?_eq_some hold)
          have hgt : compare key k = .gt := Std.OrientedCmp.gt_of_lt hlt
          simp [put, hgt, htest, ih hrest hold]

end OrderedMap
end Whereabouts
