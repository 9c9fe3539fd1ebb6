import Whereabouts.Proofs.Items

/-!
# Locations that wait

The two tables of a session's waiting locations are one map from keys to
locations, and applying them moves exactly the items that wait.
-/

namespace Whereabouts
namespace Pending

def get? (pending : Pending) (key : ItemKey) : Option Location :=
  match key.kind with
  | .asset => pending.assets.get? key.id
  | .tileServer => pending.tileServers.get? key.id

@[simp] theorem get?_empty (key : ItemKey) : Pending.empty.get? key = none := by
  rcases key with ⟨kind, id⟩
  cases kind <;> rfl

theorem get?_insert (pending : Pending) (target key : ItemKey) (loc : Location) :
    (pending.insert target loc).get? key =
      if key = target then some loc else pending.get? key := by
  rcases target with ⟨kind, id⟩
  rcases key with ⟨kind', id'⟩
  cases kind <;> cases kind' <;>
    simp [insert, get?, OrderedMap.get?_insert]

theorem mem_toList_iff {pending : Pending} {key : ItemKey} {loc : Location} :
    (key, loc) ∈ pending.toList <-> pending.get? key = some loc := by
  rcases key with ⟨kind, id⟩
  cases kind <;> simp [toList, get?, OrderedMap.get?_eq_some_iff]

theorem isEmpty_iff {pending : Pending} :
    pending.isEmpty = true <-> forall key, pending.get? key = none := by
  have htoList : pending.isEmpty = true <-> pending.toList = [] := by
    simp [isEmpty, toList, OrderedMap.isEmpty]
  rw [htoList, List.eq_nil_iff_forall_not_mem]
  constructor
  · intro h key
    cases hget : pending.get? key with
    | none => rfl
    | some loc => exact absurd (mem_toList_iff.mpr hget) (h (key, loc))
  · intro h entry hentry
    rw [mem_toList_iff, h entry.1] at hentry
    cases hentry

theorem nodup_toList (pending : Pending) : (pending.toList.map Prod.fst).Nodup := by
  unfold toList
  rw [List.map_append, List.map_map, List.map_map]
  refine List.nodup_append.mpr ⟨?_, ?_, ?_⟩
  · have hkeys : (pending.assets.entries.map fun entry =>
        (⟨.asset, entry.1⟩ : ItemKey)).Nodup :=
      Database.nodup_keys_of_ids pending.assets.nodup_keys
    exact hkeys
  · have hkeys : (pending.tileServers.entries.map fun entry =>
        (⟨.tileServer, entry.1⟩ : ItemKey)).Nodup :=
      Database.nodup_keys_of_ids pending.tileServers.nodup_keys
    exact hkeys
  · intro a ha b hb heq
    rcases List.mem_map.mp ha with ⟨_, _, rfl⟩
    rcases List.mem_map.mp hb with ⟨_, _, rfl⟩
    cases congrArg ItemKey.kind heq

/-- The number of waiting locations whose row is there is that of their items. -/
theorem present_eq (pending : Pending) (db : Database) :
    exists rows : List ItemKey, rows.Nodup ∧ rows.length = pending.present db ∧
      forall key, key ∈ rows <->
        (exists loc, pending.get? key = some loc) ∧ (db.tracked? key).isSome = true := by
  refine ⟨(pending.toList.filter fun entry => (db.location? entry.1).isSome).map Prod.fst,
    pending.nodup_toList.sublist (List.filter_sublist.map _), List.length_map _, ?_⟩
  intro key
  have hlocation : (db.location? key).isSome = (db.tracked? key).isSome := Option.isSome_map
  constructor
  · intro hkey
    rcases List.mem_map.mp hkey with ⟨⟨_, loc⟩, hentry, rfl⟩
    rcases List.mem_filter.mp hentry with ⟨hwaits, hrow⟩
    exact ⟨⟨loc, mem_toList_iff.mp hwaits⟩, hlocation ▸ hrow⟩
  · intro h
    rcases h with ⟨⟨loc, hloc⟩, hrow⟩
    exact List.mem_map.mpr ⟨(key, loc),
      List.mem_filter.mpr ⟨mem_toList_iff.mpr hloc, hlocation.trans hrow⟩, rfl⟩

theorem size_eq_length (pending : Pending) : pending.size = pending.toList.length := by
  rw [toList, List.length_append, List.length_map, List.length_map]
  rfl

theorem present_le_size (pending : Pending) (db : Database) :
    pending.present db ≤ pending.size := by
  rw [size_eq_length]
  exact List.length_filter_le _ _

/-!
## Applying
-/

theorem tracked?_foldl_of_not_mem {moves : List (ItemKey × Location)} {key : ItemKey}
    (hkey : key ∉ moves.map Prod.fst) (db : Database) :
    (moves.foldl (fun db entry => db.setLocation entry.1 entry.2) db).tracked? key =
      db.tracked? key := by
  induction moves generalizing db with
  | nil => rfl
  | cons first rest ih =>
      rw [List.map_cons, List.mem_cons, not_or] at hkey
      rw [List.foldl_cons, ih hkey.2, Database.tracked?_setLocation, if_neg hkey.1]

theorem tracked?_foldl_of_mem {moves : List (ItemKey × Location)} {key : ItemKey}
    {loc : Location} (hnodup : (moves.map Prod.fst).Nodup) (hmem : (key, loc) ∈ moves)
    (db : Database) :
    (moves.foldl (fun db entry => db.setLocation entry.1 entry.2) db).tracked? key =
      (db.tracked? key).map (Tracked.moved loc) := by
  induction moves generalizing db with
  | nil => cases hmem
  | cons first rest ih =>
      rw [List.map_cons, List.nodup_cons] at hnodup
      rw [List.foldl_cons]
      rcases List.mem_cons.mp hmem with hfirst | hrest
      · subst hfirst
        rw [tracked?_foldl_of_not_mem hnodup.1, Database.tracked?_setLocation, if_pos rfl]
      · have hne : key ≠ first.1 := by
          intro heq
          exact hnodup.1 (heq ▸ List.mem_map_of_mem hrest)
        rw [ih hnodup.2 hrest, Database.tracked?_setLocation, if_neg hne]

theorem moved_apply (pending : Pending) (db : Database) :
    db.Moved pending.get? (pending.apply db) := by
  intro key
  unfold apply
  cases h : pending.get? key with
  | none =>
      have hkey : key ∉ pending.toList.map Prod.fst := by
        intro hmem
        rcases List.mem_map.mp hmem with ⟨entry, hentry, rfl⟩
        rw [mem_toList_iff.mp hentry] at h
        cases h
      rw [tracked?_foldl_of_not_mem hkey]
      cases db.tracked? key <;> rfl
  | some loc =>
      exact tracked?_foldl_of_mem pending.nodup_toList (mem_toList_iff.mpr h) db

end Pending
end Whereabouts
