import Whereabouts.Check.Sweep
import Whereabouts.Proofs.OrderedMap

/-!
# Tracked items of a database

The two tables of tracked items are read through one look-up by key.  What a
change of locations does is said through that look-up as well, so that later
modules need not tell assets from tile servers.
-/

namespace Whereabouts

/-!
## Moves
-/

namespace Tracked

def movedBy (move : Option Location) (item : Tracked) : Tracked :=
  match move with
  | some loc => item.moved loc
  | none => item

@[simp] theorem movedBy_none (item : Tracked) : item.movedBy none = item := rfl

@[simp] theorem movedBy_some (loc : Location) (item : Tracked) :
    item.movedBy (some loc) = item.moved loc := rfl

@[simp] theorem key_moved (loc : Location) (item : Tracked) :
    (item.moved loc).key = item.key := by
  cases item <;> rfl

@[simp] theorem location_moved (loc : Location) (item : Tracked) :
    (item.moved loc).location = loc := by
  cases item <;> rfl

@[simp] theorem moved_moved (first second : Location) (item : Tracked) :
    (item.moved first).moved second = item.moved second := by
  cases item <;> rfl

@[simp] theorem moved_location (item : Tracked) : item.moved item.location = item := by
  cases item <;> rfl

theorem movedBy_movedBy (first second : Option Location) (item : Tracked) :
    (item.movedBy first).movedBy second = item.movedBy (second.or first) := by
  cases second with
  | none => rfl
  | some loc =>
      cases first with
      | none => rfl
      | some old => exact moved_moved old loc item

end Tracked

namespace Database

/-- The items of one database are those of another one after some moves. -/
def Moved (db : Database) (moves : ItemKey -> Option Location) (after : Database) : Prop :=
  forall key, after.tracked? key = (db.tracked? key).map (Tracked.movedBy (moves key))

def SameItems (db after : Database) : Prop :=
  forall key, after.tracked? key = db.tracked? key

theorem SameItems.refl (db : Database) : SameItems db db :=
  fun _ => rfl

theorem SameItems.moved {a b : Database} (h : SameItems a b) :
    Moved a (fun _ => none) b := by
  intro key
  rw [h key]
  cases a.tracked? key <;> rfl

theorem Moved.trans {a b c : Database} {first second : ItemKey -> Option Location}
    (hab : Moved a first b) (hbc : Moved b second c) :
    Moved a (fun key => (second key).or (first key)) c := by
  intro key
  rw [hbc key, hab key, Option.map_map]
  congr 1
  funext item
  exact Tracked.movedBy_movedBy (first key) (second key) item

theorem Moved.sameItems {a b c : Database} {moves : ItemKey -> Option Location}
    (hab : Moved a moves b) (hbc : SameItems b c) : Moved a moves c :=
  fun key => (hbc key).trans (hab key)

theorem Moved.tracked?_of_none {a b : Database} {moves : ItemKey -> Option Location}
    (h : Moved a moves b) {key : ItemKey} (hnone : moves key = none) :
    b.tracked? key = a.tracked? key := by
  rw [h key, hnone]
  cases a.tracked? key <;> rfl

/-!
## A location replaced
-/

theorem tracked?_setLocation (db : Database) (target key : ItemKey) (loc : Location) :
    (db.setLocation target loc).tracked? key =
      if key = target then (db.tracked? key).map (Tracked.moved loc)
      else db.tracked? key := by
  rcases target with ⟨kind, id⟩
  rcases key with ⟨kind', id'⟩
  cases kind <;> cases kind'
  case asset.asset =>
      simp only [setLocation, tracked?, OrderedMap.get?_modify]
      by_cases h : id' = id
      · subst h
        simp only [if_true, Option.map_map]
        rfl
      · simp [h]
  case tileServer.tileServer =>
      simp only [setLocation, tracked?, OrderedMap.get?_modify]
      by_cases h : id' = id
      · subst h
        simp only [if_true, Option.map_map]
        rfl
      · simp [h]
  case asset.tileServer => simp [setLocation, tracked?]
  case tileServer.asset => simp [setLocation, tracked?]

/-!
## Keys

In a database whose rows are stored under the ids that they state, an item is
found under its own key.
-/

/-- Every row of a table is stored under the id that it states. -/
def StoredUnder {α : Type} (table : Table α) (id : α -> Int64) : Prop :=
  forall key row, table.get? key = some row -> id row = key

instance {α : Type} (table : Table α) (id : α -> Int64) : Decidable (StoredUnder table id) :=
  decidable_of_iff (forall entry, entry ∈ table.entries -> id entry.2 = entry.1) (by
    constructor
    · intro h key row hrow
      exact h (key, row) (OrderedMap.get?_eq_some_iff.mp hrow)
    · intro h entry hentry
      exact h entry.1 entry.2 (OrderedMap.get?_eq_some_iff.mpr hentry))

/-- The rows that a check looks up are stored under the ids that they state. -/
structure Keyed (db : Database) : Prop where
  projects : StoredUnder db.projects Project.id
  assets : StoredUnder db.assets Asset.id
  tileServers : StoredUnder db.tileServers TileServer.id

instance (db : Database) : Decidable db.Keyed :=
  decidable_of_iff
    (StoredUnder db.projects Project.id ∧ StoredUnder db.assets Asset.id ∧
      StoredUnder db.tileServers TileServer.id)
    ⟨fun ⟨projects, assets, servers⟩ => ⟨projects, assets, servers⟩,
      fun ⟨projects, assets, servers⟩ => ⟨projects, assets, servers⟩⟩

theorem Keyed.key_eq {db : Database} (h : db.Keyed) {key : ItemKey} {item : Tracked}
    (hitem : db.tracked? key = some item) : item.key = key := by
  rcases key with ⟨kind, id⟩
  cases kind with
  | asset =>
      rcases Option.map_eq_some_iff.mp hitem with ⟨row, hrow, rfl⟩
      have hid := h.assets id row hrow
      simp [Tracked.key, Asset.key, hid]
  | tileServer =>
      rcases Option.map_eq_some_iff.mp hitem with ⟨row, hrow, rfl⟩
      have hid := h.tileServers id row hrow
      simp [Tracked.key, TileServer.key, hid]

theorem Keyed.of_key_eq {db after : Database} (h : db.Keyed)
    (hprojects : after.projects = db.projects)
    (hkey : forall key item, after.tracked? key = some item -> item.key = key) :
    after.Keyed := by
  refine ⟨?_, ?_, ?_⟩
  · rw [hprojects]
    exact h.projects
  · intro id row hrow
    have hitem : after.tracked? ⟨.asset, id⟩ = some (.asset row) := by
      unfold tracked?
      rw [hrow]
      rfl
    exact congrArg ItemKey.id (hkey _ _ hitem)
  · intro id row hrow
    have hitem : after.tracked? ⟨.tileServer, id⟩ = some (.tileServer row) := by
      unfold tracked?
      rw [hrow]
      rfl
    exact congrArg ItemKey.id (hkey _ _ hitem)

theorem Keyed.moved {db after : Database} {moves : ItemKey -> Option Location} (h : db.Keyed)
    (hprojects : after.projects = db.projects) (hmoved : db.Moved moves after) :
    after.Keyed := by
  apply h.of_key_eq hprojects
  intro key item hitem
  rw [hmoved key] at hitem
  rcases Option.map_eq_some_iff.mp hitem with ⟨old, hold, rfl⟩
  rw [← h.key_eq hold]
  cases moves old.key with
  | none => rfl
  | some loc => exact Tracked.key_moved loc old

/-!
## Work
-/

/-- Whether a check of a project goes through an item. -/
def eligible (projectId : Int64) : Tracked -> Bool
  | .asset row => row.projectId == projectId && isTrackable row
  | .tileServer row => row.projectId == projectId && row.internal

theorem mem_work_iff {db : Database} (h : db.Keyed) (projectId : Int64) (key : ItemKey) :
    key ∈ db.work projectId <->
      exists item, db.tracked? key = some item ∧ eligible projectId item = true := by
  unfold work assetsOf tileServersOf
  simp only [List.mem_append, List.mem_map, List.mem_filter, OrderedMap.mem_values_iff]
  constructor
  · intro hmem
    rcases hmem with ⟨row, ⟨⟨⟨id, hrow⟩, hproject⟩, htrackable⟩, rfl⟩ |
      ⟨row, ⟨⟨⟨id, hrow⟩, hproject⟩, hinternal⟩, rfl⟩
    · have hid := h.assets id row hrow
      refine ⟨.asset row, ?_, ?_⟩
      · simp [tracked?, Asset.key, hid, hrow]
      · simp [eligible, hproject, htrackable]
    · have hid := h.tileServers id row hrow
      refine ⟨.tileServer row, ?_, ?_⟩
      · simp [tracked?, TileServer.key, hid, hrow]
      · simp [eligible, hproject, hinternal]
  · intro hitem
    rcases hitem with ⟨item, hitem, heligible⟩
    rcases key with ⟨kind, id⟩
    cases kind with
    | asset =>
        rcases Option.map_eq_some_iff.mp hitem with ⟨row, hrow, rfl⟩
        have hid := h.assets id row hrow
        rcases Bool.and_eq_true_iff.mp heligible with ⟨hproject, htrackable⟩
        exact Or.inl ⟨row, ⟨⟨⟨id, hrow⟩, hproject⟩, htrackable⟩, by simp [Asset.key, hid]⟩
    | tileServer =>
        rcases Option.map_eq_some_iff.mp hitem with ⟨row, hrow, rfl⟩
        have hid := h.tileServers id row hrow
        rcases Bool.and_eq_true_iff.mp heligible with ⟨hproject, hinternal⟩
        exact Or.inr
          ⟨row, ⟨⟨⟨id, hrow⟩, hproject⟩, hinternal⟩, by simp [TileServer.key, hid]⟩

theorem of_setup_eq_ok {db : Database} {projectId userId : Int64} {setup : Setup}
    (h : db.setup projectId userId = .ok setup) :
    db.projects.get? projectId = some setup.project ∧
      setup.work = db.work projectId ∧ db.runOf? projectId = some setup.run ∧
      setup.pointClouds = .ofList ((db.pointClouds.values.filter fun cloud =>
        cloud.projectId == projectId).map fun cloud => (cloud.id, cloud)) := by
  unfold Database.setup at h
  cases hproject : db.projects.get? projectId with
  | none =>
      rw [hproject] at h
      cases h
  | some project =>
      cases huser : db.users.get? userId with
      | none =>
          rw [hproject, huser] at h
          cases h
      | some user =>
          cases htoken : user.credentials? with
          | none =>
              rw [hproject, huser] at h
              dsimp only [bind, Except.bind] at h
              rw [htoken] at h
              cases h
          | some token =>
              cases hrun : db.runOf? projectId with
              | none =>
                  rw [hproject, huser, hrun] at h
                  dsimp only [bind, Except.bind] at h
                  rw [htoken] at h
                  cases h
              | some run =>
                  rw [hproject, huser, hrun] at h
                  dsimp only [bind, Except.bind] at h
                  rw [htoken] at h
                  cases h
                  exact ⟨rfl, rfl, rfl, rfl⟩

theorem nodup_ids {α : Type} {table : Table α} {id : α -> Int64} (h : StoredUnder table id) :
    (table.values.map id).Nodup := by
  have hids : table.values.map id = table.keys := by
    unfold OrderedMap.values OrderedMap.keys
    rw [List.map_map]
    apply List.map_congr_left
    intro entry hentry
    exact h entry.1 entry.2 (OrderedMap.get?_eq_some_iff.mpr hentry)
  rw [hids]
  exact table.nodup_keys

theorem nodup_keys_of_ids {α : Type} {rows : List α} {key : α -> ItemKey}
    (h : (rows.map fun row => (key row).id).Nodup) : (rows.map key).Nodup := by
  refine List.Pairwise.of_map ItemKey.id ?_ (by rwa [List.map_map])
  intro a b hne heq
  exact hne (congrArg ItemKey.id heq)

theorem nodup_work {db : Database} (h : db.Keyed) (projectId : Int64) :
    (db.work projectId).Nodup := by
  have hassets : (((db.assetsOf projectId).filter isTrackable).map Asset.key).Nodup := by
    have hsub := (List.filter_sublist (l := db.assetsOf projectId) (p := isTrackable)).trans
      (List.filter_sublist (l := db.assets.values))
    have hids := (nodup_ids h.assets).sublist (hsub.map Asset.id)
    exact nodup_keys_of_ids hids
  have hservers :
      (((db.tileServersOf projectId).filter TileServer.internal).map TileServer.key).Nodup := by
    have hsub :=
      (List.filter_sublist (l := db.tileServersOf projectId) (p := TileServer.internal)).trans
        (List.filter_sublist (l := db.tileServers.values))
    have hids := (nodup_ids h.tileServers).sublist (hsub.map TileServer.id)
    exact nodup_keys_of_ids hids
  refine List.nodup_append.mpr ⟨hassets, hservers, ?_⟩
  intro a ha b hb heq
  rcases List.mem_map.mp ha with ⟨asset, _, rfl⟩
  rcases List.mem_map.mp hb with ⟨server, _, rfl⟩
  cases congrArg ItemKey.kind heq

/-- The work list of a check has every item of the project that can be checked, once. -/
theorem setup_work {db : Database} {projectId userId : Int64} {setup : Setup} (hkeyed : db.Keyed)
    (h : db.setup projectId userId = .ok setup) :
    setup.work.Nodup ∧ forall key, key ∈ setup.work <->
      exists item, db.tracked? key = some item ∧ Database.eligible projectId item = true := by
  rw [(of_setup_eq_ok h).2.1]
  exact ⟨nodup_work hkeyed projectId, mem_work_iff hkeyed projectId⟩

end Database
end Whereabouts
