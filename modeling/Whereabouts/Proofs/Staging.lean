import Whereabouts.Proofs.MemoryWorld
import Whereabouts.Proofs.Sweep

/-!
# Staged locations

What is done with a session, one thing after the other, in a world in which anything may
happen in between.  A staged location awaits the next commit, unless its item is staged
again or a rollback comes first.  A commit that succeeds writes what awaits it to the rows
that the database has by then, and changes nothing else.
-/

namespace Whereabouts
namespace Session

variable {σ ω : Type}

/-!
## Events
-/

/-- What may happen to a session, or around it. -/
inductive Event where
  | read
  | staged (key : ItemKey) (loc : Location)
  | rolledBack
  | expired
  | committed (count : Nat) (before after : Database)
  | refused (fault : Fault)
  | elsewhere

/-- Whether what waited under a key before an event is no longer what waits after it. -/
def Event.settles (key : ItemKey) : Event -> Bool
  | .staged other _ => decide (other = key)
  | .rolledBack => true
  | .committed _ _ _ => true
  | .refused _ => true
  | .read => false
  | .expired => false
  | .elsewhere => false

inductive Happens (vault : Vault (StateM σ)) (view : View σ ω) :
    Event -> Session × σ -> Session × σ -> Prop
  | asset {session next : Session} {s after : σ} {id : Int64} {row : Option Asset}
      (h : (session.asset? vault id).on s = (.ok (row, next), after)) :
      Happens vault view .read (session, s) (next, after)
  | assetUnread {session : Session} {s after : σ} {id : Int64} {fault : Fault}
      (h : (session.asset? vault id).on s = (.error fault, after)) :
      Happens vault view .read (session, s) (session, after)
  | tileServer {session next : Session} {s after : σ} {id : Int64} {row : Option TileServer}
      (h : (session.tileServer? vault id).on s = (.ok (row, next), after)) :
      Happens vault view .read (session, s) (next, after)
  | tileServerUnread {session : Session} {s after : σ} {id : Int64} {fault : Fault}
      (h : (session.tileServer? vault id).on s = (.error fault, after)) :
      Happens vault view .read (session, s) (session, after)
  | staged {session : Session} {s : σ} (key : ItemKey) (loc : Location) :
      Happens vault view (.staged key loc) (session, s) (session.stage key loc, s)
  | rolledBack {session : Session} {s : σ} :
      Happens vault view .rolledBack (session, s) (session.rollback, s)
  | expired {session : Session} {s : σ} :
      Happens vault view .expired (session, s) (session.expire, s)
  | committed {session next : Session} {s after : σ} {count : Nat}
      (h : (session.commit vault).run s = ((.ok count, next), after)) :
      Happens vault view (.committed count (view.database s) (view.database after))
        (session, s) (next, after)
  | refused {session next : Session} {s after : σ} {fault : Fault}
      (h : (session.commit vault).run s = ((.error fault, next), after)) :
      Happens vault view (.refused fault) (session, s) (next, after)
  /-- Whatever others do, to the database or to what keeps it. -/
  | elsewhere {session : Session} {s : σ} (after : σ) :
      Happens vault view .elsewhere (session, s) (session, after)

/-- A session and the world around it before and after some events, in the order of time. -/
inductive History (vault : Vault (StateM σ)) (view : View σ ω) :
    List Event -> Session × σ -> Session × σ -> Prop
  | nil (state : Session × σ) : History vault view [] state state
  | cons {event : Event} {events : List Event} {first second last : Session × σ}
      (step : Happens vault view event first second)
      (later : History vault view events second last) :
      History vault view (event :: events) first last

/-- A location was staged for an item, and since then none was staged for it again, no
commit was tried, and nothing was rolled back. -/
def Awaits (events : List Event) (key : ItemKey) (loc : Location) : Prop :=
  exists early late, events = early ++ .staged key loc :: late ∧
    forall event, event ∈ late -> event.settles key = false

theorem not_awaits_nil (key : ItemKey) (loc : Location) : ¬ Awaits [] key loc := by
  intro h
  rcases h with ⟨early, late, hevents, _⟩
  cases early <;> cases hevents

theorem awaits_cons {event : Event} {events : List Event} {key : ItemKey} {loc : Location} :
    Awaits (event :: events) key loc <->
      Awaits events key loc ∨
        (event = .staged key loc ∧ forall later, later ∈ events -> later.settles key = false) := by
  constructor
  · intro h
    rcases h with ⟨early, late, hevents, hlate⟩
    cases early with
    | nil =>
        cases hevents
        exact Or.inr ⟨rfl, hlate⟩
    | cons first early =>
        cases hevents
        exact Or.inl ⟨early, late, rfl, hlate⟩
  · intro h
    rcases h with ⟨early, late, rfl, hlate⟩ | ⟨rfl, hlate⟩
    · exact ⟨event :: early, late, rfl, hlate⟩
    · exact ⟨[], events, rfl, hlate⟩

/-!
## What waits
-/

variable {vault : Vault (StateM σ)} {view : View σ ω} {session next : Session} {s after : σ}

theorem pending_of_database {db : Database}
    (h : (session.database vault).on s = (.ok (db, next), after)) :
    next.pending = session.pending := by
  unfold database at h
  cases hloaded : session.loaded with
  | some snapshot =>
      rw [hloaded] at h
      cases h
      rfl
  | none =>
      rw [hloaded] at h
      rcases Attempt.of_on_bind_ok h with ⟨snapshot, between, _, hnext⟩
      cases hnext
      rfl

theorem pending_of_asset? {id : Int64} {row : Option Asset}
    (h : (session.asset? vault id).on s = (.ok (row, next), after)) :
    next.pending = session.pending := by
  rcases Attempt.of_on_bind_ok h with ⟨⟨db, loaded⟩, between, hdatabase, hnext⟩
  cases hnext
  exact pending_of_database hdatabase

theorem pending_of_tileServer? {id : Int64} {row : Option TileServer}
    (h : (session.tileServer? vault id).on s = (.ok (row, next), after)) :
    next.pending = session.pending := by
  rcases Attempt.of_on_bind_ok h with ⟨⟨db, loaded⟩, between, hdatabase, hnext⟩
  cases hnext
  exact pending_of_database hdatabase

theorem Commits.pending {result : Except Fault Nat} (h : session.Commits view s result next after)
    (key : ItemKey) : next.pending.get? key = none := by
  cases h with
  | idle hidle => exact Pending.isEmpty_iff.mp hidle key
  | written => exact Pending.get?_empty key
  | refused => exact Pending.get?_empty key

/-- What waits after an event was staged by it, or waited before and was not settled. -/
theorem Happens.pending (hvault : vault.Holds view) {event : Event} {state : Session × σ}
    {state' : Session × σ} (h : Happens vault view event state state') (key : ItemKey)
    (loc : Location) :
    state'.1.pending.get? key = some loc <->
      event = .staged key loc ∨
        (event.settles key = false ∧ state.1.pending.get? key = some loc) := by
  cases h with
  | asset h => simp [Event.settles, pending_of_asset? h]
  | tileServer h => simp [Event.settles, pending_of_tileServer? h]
  | staged other given =>
      by_cases hkey : key = other
      · simp [Event.settles, stage, Pending.get?_insert, hkey]
      · simp [Event.settles, stage, Pending.get?_insert, hkey, Ne.symm hkey]
  | rolledBack => simp [Event.settles, rollback]
  | committed h => simp [Event.settles, (commits_commit hvault h).pending key]
  | refused h => simp [Event.settles, (commits_commit hvault h).pending key]
  | assetUnread | tileServerUnread | expired | elsewhere => simp [Event.settles, expire]

theorem History.pending (hvault : vault.Holds view) {events : List Event}
    {first last : Session × σ} (h : History vault view events first last) (key : ItemKey)
    (loc : Location) :
    last.1.pending.get? key = some loc <->
      Awaits events key loc ∨
        ((forall event, event ∈ events -> event.settles key = false) ∧
          first.1.pending.get? key = some loc) := by
  -- On the events: what waits after the first one either waited before or was staged by it.
  induction h with
  | nil state => simp [not_awaits_nil]
  | cons step _ ih =>
      rw [ih, step.pending hvault key loc, awaits_cons, List.forall_mem_cons]
      tauto

theorem History.pending_iff_awaits (hvault : vault.Holds view) {events : List Event} {origin : σ}
    (h : History vault view events (Session.start, origin) (session, s)) (key : ItemKey)
    (loc : Location) : session.pending.get? key = some loc <-> Awaits events key loc := by
  rw [h.pending hvault key loc]
  simp [start]

/-!
## Commits
-/

/-- The second database is the first one with what awaits a commit written to the rows
that are there, and with nothing else changed. -/
structure Writes (events : List Event) (before after : Database) : Prop where
  moved : forall key loc, Awaits events key loc ->
    after.tracked? key = (before.tracked? key).map (Tracked.moved loc)
  kept : forall key, (forall loc, ¬ Awaits events key loc) ->
    after.tracked? key = before.tracked? key
  rest : after = { before with assets := after.assets, tileServers := after.tileServers }

/-- What a commit that succeeded has done with what awaited it. -/
structure Committed (view : View σ ω) (events : List Event) (session : Session) (s : σ)
    (count : Nat) (next : Session) (after : σ) : Prop where
  written : Writes events (view.database s) (view.database after)
  count : exists rows : List ItemKey, rows.Nodup ∧ rows.length = count ∧
    forall key, key ∈ rows <->
      (exists loc, Awaits events key loc) ∧ ((view.database s).tracked? key).isSome = true
  once : (exists key loc, Awaits events key loc) ->
    view.saved after = view.database after :: view.saved s
  /-- A commit that nothing awaits is none. -/
  idle : (forall key loc, ¬ Awaits events key loc) -> after = s
  outside : view.outside after = view.outside s
  emptied : next.pending.isEmpty = true
  unread : session.loaded = none -> next.loaded = none
  /-- The rows that the session has read show what was written. -/
  shown : forall seen, session.loaded = some seen ->
    exists shown, next.loaded = some shown ∧ Writes events seen shown

section

variable {events : List Event}
  (hpending : forall key loc, session.pending.get? key = some loc <-> Awaits events key loc)

include hpending

theorem writes_apply (db : Database) : Writes events db (session.pending.apply db) where
  moved := by
    intro key loc hawaits
    rw [session.pending.moved_apply db key, (hpending key loc).mpr hawaits]
    rfl
  kept := by
    intro key hnone
    refine (session.pending.moved_apply db).tracked?_of_none ?_
    exact Option.eq_none_iff_forall_ne_some.mpr fun loc h => hnone loc ((hpending key loc).mp h)
  rest := Database.apply_eq session.pending db

theorem isEmpty_pending_iff :
    session.pending.isEmpty = true <-> forall key loc, ¬ Awaits events key loc := by
  rw [Pending.isEmpty_iff]
  constructor
  · intro hnone key loc hawaits
    rw [← hpending, hnone key] at hawaits
    cases hawaits
  · intro hnone key
    exact Option.eq_none_iff_forall_ne_some.mpr fun loc h => hnone key loc ((hpending key loc).mp h)

end

theorem commit_le_size (hvault : vault.Holds view) {count : Nat}
    (hcommit : (session.commit vault).run s = ((.ok count, next), after)) :
    count ≤ session.pending.size := by
  cases commits_commit hvault hcommit with
  | idle _ => exact Nat.zero_le _
  | written _ _ _ _ => exact session.pending.present_le_size _

/-- A commit that succeeds writes, at once, the locations that were staged last for their
items since the last commit or rollback, to those rows that are still there; it counts
them, and leaves everything else as it is in the database by then. -/
theorem commit_writes_awaited (hvault : vault.Holds view) {events : List Event} {origin : σ}
    {count : Nat} (h : History vault view events (Session.start, origin) (session, s))
    (hcommit : (session.commit vault).run s = ((.ok count, next), after)) :
    Committed view events session s count next after := by
  have hpending := h.pending_iff_awaits hvault
  have hempty := isEmpty_pending_iff hpending
  have hcommits := commits_commit hvault hcommit
  have hemptied := Pending.isEmpty_iff.mpr hcommits.pending
  cases hcommits with
  | idle hidle =>
      have hnone := hempty.mp hidle
      have hwrites : forall db, Writes events db db := fun db =>
        ⟨fun key loc hawaits => absurd hawaits (hnone key loc), fun _ _ => rfl, rfl⟩
      refine ⟨hwrites _, ⟨[], List.nodup_nil, rfl, ?_⟩, ?_, fun _ => rfl, rfl, hemptied, id,
        fun seen hseen => ⟨seen, hseen, hwrites seen⟩⟩
      · intro key
        simp [hnone]
      · intro hsome
        rcases hsome with ⟨key, loc, hawaits⟩
        exact absurd hawaits (hnone key loc)
  | written hwaiting hdatabase hsaved houtside =>
      refine ⟨?_, ?_, fun _ => hsaved, ?_, houtside, hemptied, ?_, ?_⟩
      · rw [hdatabase]
        exact writes_apply hpending _
      · rcases session.pending.present_eq (view.database s) with ⟨rows, hnodup, hlength, hrows⟩
        refine ⟨rows, hnodup, hlength, ?_⟩
        intro key
        rw [hrows key]
        simp only [hpending]
      · intro hnone
        rw [hempty.mpr hnone] at hwaiting
        cases hwaiting
      · intro hunread
        rw [hunread]
        rfl
      · intro seen hseen
        rw [hseen]
        exact ⟨_, rfl, writes_apply hpending seen⟩

end Session

/-!
## A sample

A tile server has the id of an asset, and an asset is staged twice.  Before the commit
another asset is deleted, and the first one comes to belong to another feature.
-/

namespace Sample

def tiled : MemoryWorld Unit :=
  { memory with
    database := { database with
      tileServers := .ofList
        [(1,
          { id := 1, projectId := 1, name := "tiles", kind := "tms", internal := true,
            location := placed "project-a" "/tiles" })] } }

def meddled : MemoryWorld Unit :=
  { tiled with
    database := { tiled.database with
      assets := (tiled.database.assets.erase 2).modify 1 fun asset =>
        { asset with featureId := 9 } } }

def visit : List Session.Event :=
  [.read, .staged ⟨.asset, 1⟩ (placed "project-a" "/first.jpg"),
    .staged ⟨.tileServer, 1⟩ (placed "project-a" "/moved"),
    .staged ⟨.asset, 2⟩ (placed "project-a" "/gone.jpg"),
    .staged ⟨.asset, 1⟩ (placed "project-a" "/second.jpg"), .elsewhere]

def visitor : Session where
  loaded := some tiled.database
  pending := (((Pending.empty.insert ⟨.asset, 1⟩ (placed "project-a" "/first.jpg")).insert
    ⟨.tileServer, 1⟩ (placed "project-a" "/moved")).insert
    ⟨.asset, 2⟩ (placed "project-a" "/gone.jpg")).insert
    ⟨.asset, 1⟩ (placed "project-a" "/second.jpg")

theorem visited :
    Session.History MemoryWorld.vault MemoryWorld.view visit (Session.start, tiled)
      (visitor, meddled) := by
  have hread : (Session.start.asset? MemoryWorld.vault 1).on tiled =
      (.ok (tiled.database.assets.get? 1,
        { Session.start with loaded := some tiled.database }), tiled) := rfl
  exact .cons (.asset hread) (.cons (.staged _ _) (.cons (.staged _ _) (.cons (.staged _ _)
    (.cons (.staged _ _) (.cons (.elsewhere meddled) (.nil _))))))

end Sample

/-- Two rows are written, and what others changed stays. -/
theorem commit_writes_awaited_sample :
    exists next after,
      (Sample.visitor.commit MemoryWorld.vault).run Sample.meddled = ((.ok 2, next), after) ∧
      Session.Committed MemoryWorld.view Sample.visit Sample.visitor Sample.meddled 2 next after ∧
      after.database.assets.get? 1 =
        some { Sample.image 1 (Sample.placed "project-a" "/second.jpg") with featureId := 9 } := by
  have hcommit : (Sample.visitor.commit MemoryWorld.vault).run Sample.meddled =
      ((.ok 2, (((Sample.visitor.commit MemoryWorld.vault).run Sample.meddled).1).2),
        ((Sample.visitor.commit MemoryWorld.vault).run Sample.meddled).2) := rfl
  refine ⟨_, _, hcommit, ?_, rfl⟩
  exact Session.commit_writes_awaited MemoryWorld.vault_holds Sample.visited hcommit

end Whereabouts
