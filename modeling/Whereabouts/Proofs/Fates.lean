import Whereabouts.Proofs.Progress
import Whereabouts.Proofs.Staging

/-!
# Fates of staged locations

What becomes of a location after it was staged.  It is kept (it waits, or it was written,
or somebody decided against it) unless the next commit is refused: such a commit leaves
the database as it is, and what waited for it is gone.
-/

namespace Whereabouts
namespace Session

variable {σ ω : Type} {vault : Vault (StateM σ)} {view : View σ ω} {session next : Session}
  {s after : σ} {events late : List Event} {key : ItemKey} {loc : Location}

/-!
## Histories in parts
-/

theorem History.of_append {first last : Session × σ} {early : List Event}
    (h : History vault view (early ++ late) first last) :
    exists middle, History vault view early first middle ∧
      History vault view late middle last := by
  induction early generalizing first with
  | nil => exact ⟨first, .nil first, h⟩
  | cons event early ih =>
      cases h with
      | cons step later =>
          rcases ih later with ⟨middle, hearly, hlate⟩
          exact ⟨middle, .cons step hearly, hlate⟩

theorem History.happens {first last : Session × σ} (h : History vault view events first last)
    {event : Event} (hmem : event ∈ events) :
    exists before later, Happens vault view event before later := by
  induction h with
  | nil state => cases hmem
  | cons step _ ih =>
      rcases List.mem_cons.mp hmem with rfl | hmem
      · exact ⟨_, _, step⟩
      · exact ih hmem

theorem History.unstaged (hvault : vault.Holds view) {first last : Session × σ}
    (h : History vault view events first last) (hnone : first.1.pending.get? key = none)
    (hstaged : forall newer, Event.staged key newer ∉ events) :
    last.1.pending.get? key = none ∧
      forall count before changed, Event.committed count before changed ∈ events ->
        changed.tracked? key = before.tracked? key := by
  -- Only staging makes something wait, so that nothing waits after any of the events.
  induction h with
  | nil state => exact ⟨hnone, fun _ _ _ hmem => nomatch hmem⟩
  | @cons event events first second last step later ih =>
      have hsecond : second.1.pending.get? key = none := by
        refine Option.eq_none_iff_forall_ne_some.mpr fun newer hnewer => ?_
        rcases (step.pending hvault key newer).mp hnewer with hevent | ⟨_, hfirst⟩
        · exact hstaged newer (hevent ▸ List.mem_cons_self)
        · rw [hnone] at hfirst
          cases hfirst
      rcases ih hsecond fun newer hnewer => hstaged newer (List.mem_cons_of_mem event hnewer) with
        ⟨hlast, hlater⟩
      refine ⟨hlast, ?_⟩
      intro count before changed hmem
      rcases List.mem_cons.mp hmem with hevent | hmem
      · subst hevent
        cases step with
        | @committed session next s after _ hcommit =>
            cases commits_commit hvault hcommit with
            | idle => rfl
            | written _ hdatabase =>
                rw [hdatabase]
                exact (session.pending.moved_apply (view.database s)).tracked?_of_none hnone
      · exact hlater count before changed hmem

theorem History.after_staged (hvault : vault.Holds view) {first last : Session × σ}
    {early : List Event}
    (h : History vault view (early ++ .staged key loc :: late) first last) :
    exists middle, History vault view late middle last ∧
      middle.1.pending.get? key = some loc := by
  rcases h.of_append with ⟨_, _, hstaged⟩
  cases hstaged with
  | cons step later => exact ⟨_, later, (step.pending hvault key loc).mpr (Or.inl rfl)⟩

/-!
## Kept locations
-/

/-- The first of some events after which something else waits under a key than before. -/
def decided? (key : ItemKey) (late : List Event) : Option Event :=
  late.find? (Event.settles key)

/-- Some events after it was staged, a location still waits; or the next commit has
written it, where its row was still there; or it was rolled back, or replaced by another
location of its item. -/
inductive Kept (key : ItemKey) (loc : Location) (late : List Event) (session : Session) : Prop
  | waiting (h : decided? key late = none) (hpending : session.pending.get? key = some loc)
  | written {count : Nat} {before changed : Database}
      (h : decided? key late = some (.committed count before changed))
      (hmoved : changed.tracked? key = (before.tracked? key).map (Tracked.moved loc))
  | rolledBack (h : decided? key late = some .rolledBack)
  | replaced {newer : Location} (h : decided? key late = some (.staged key newer))

theorem Kept.cons {event : Event} (hevent : event.settles key = false)
    (h : Kept key loc late session) : Kept key loc (event :: late) session := by
  have hdecided : decided? key (event :: late) = decided? key late := by
    simp [decided?, hevent]
  cases h with
  | waiting h hpending => exact .waiting (hdecided.trans h) hpending
  | written h hmoved => exact .written (hdecided.trans h) hmoved
  | rolledBack h => exact .rolledBack (hdecided.trans h)
  | replaced h => exact .replaced (hdecided.trans h)

theorem Happens.settled (hvault : vault.Holds view) {event : Event}
    {first second : Session × σ} (h : Happens vault view event first second)
    (hevent : event.settles key = true) (hwaits : first.1.pending.get? key = some loc) :
    (exists fault, event = .refused fault) ∨ Kept key loc (event :: late) session := by
  have hdecided : decided? key (event :: late) = some event := by
    simp [decided?, hevent]
  cases h with
  | staged other newer =>
      have hother : other = key := of_decide_eq_true hevent
      subst hother
      exact Or.inr (.replaced hdecided)
  | rolledBack => exact Or.inr (.rolledBack hdecided)
  | refused => exact Or.inl ⟨_, rfl⟩
  | @committed session next s after count hcommit =>
      refine Or.inr (.written hdecided ?_)
      cases commits_commit hvault hcommit with
      | idle hidle =>
          rw [Pending.isEmpty_iff.mp hidle key] at hwaits
          cases hwaits
      | written _ hdatabase =>
          rw [hdatabase, session.pending.moved_apply (view.database s) key, hwaits]
          rfl
  | asset | assetUnread | tileServer | tileServerUnread | expired | elsewhere => cases hevent

theorem History.kept (hvault : vault.Holds view) {first last : Session × σ}
    (h : History vault view late first last) (hwaits : first.1.pending.get? key = some loc) :
    (exists fault, decided? key late = some (.refused fault)) ∨ Kept key loc late last.1 := by
  induction h with
  | nil state => exact Or.inr (.waiting rfl hwaits)
  | @cons event events first second last step later ih =>
      cases hevent : event.settles key with
      | true =>
          rcases step.settled hvault hevent hwaits with ⟨fault, rfl⟩ | hkept
          · exact Or.inl ⟨fault, by simp [decided?, hevent]⟩
          · exact Or.inr hkept
      | false =>
          have hsecond := (step.pending hvault key loc).mpr (Or.inr ⟨hevent, hwaits⟩)
          rcases ih hsecond with ⟨fault, hfault⟩ | hkept
          · exact Or.inl ⟨fault, by rw [← hfault]; simp [decided?, hevent]⟩
          · exact Or.inr (hkept.cons hevent)

theorem Kept.not_refused (h : Kept key loc late session) (fault : Fault) :
    decided? key late ≠ some (.refused fault) := by
  intro hrefused
  cases h with
  | waiting h | rolledBack h | replaced h =>
      rw [hrefused] at h
      cases h
  | written h =>
      rw [hrefused] at h
      cases h

/-!
## Refused commits
-/

/-- What becomes of a staged location by the end of a history. -/
structure Fate (key : ItemKey) (loc : Location) (late : List Event) (session : Session) :
    Prop where
  kept_iff : Kept key loc late session <->
    forall fault, decided? key late ≠ some (.refused fault)
  /-- After a refused commit nothing waits for the item, and no commit writes to it, until
  it is staged again. -/
  lost : forall middle fault rest, late = middle ++ .refused fault :: rest ->
    (forall newer, Event.staged key newer ∉ rest) ->
      session.pending.get? key = none ∧
        forall count before changed, Event.committed count before changed ∈ rest ->
          changed.tracked? key = before.tracked? key

/-- A refused commit: the world and what the session has read stay as they were, but what
waited does not. -/
structure Refused (view : View σ ω) (session : Session) (s : σ) (next : Session) (after : σ) :
    Prop where
  same : view.Same s after
  loaded : next.loaded = session.loaded
  waited : session.pending.isEmpty = false
  emptied : next.pending.isEmpty = true

theorem refused_commit (hvault : vault.Holds view) {fault : Fault}
    (h : (session.commit vault).run s = ((.error fault, next), after)) :
    Refused view session s next after := by
  cases commits_commit hvault h with
  | refused hwaiting hsame => exact ⟨hsame, rfl, hwaiting, rfl⟩

/-- A staged location is kept exactly when the first event that decides about it is not a
refused commit; after a refused commit it is lost for good. -/
theorem staged_fate (hvault : vault.Holds view) {early : List Event} {origin : σ}
    (h : History vault view (early ++ .staged key loc :: late) (Session.start, origin)
      (session, s)) :
    Fate key loc late session ∧
      forall {session next : Session} {s after : σ} {fault : Fault},
        (session.commit vault).run s = ((.error fault, next), after) ->
          Refused view session s next after := by
  rcases h.after_staged hvault with ⟨middle, hlate, hwaits⟩
  refine ⟨⟨⟨Kept.not_refused, ?_⟩, ?_⟩, refused_commit hvault⟩
  · intro hnot
    rcases hlate.kept hvault hwaits with ⟨fault, hfault⟩ | hkept
    · exact absurd hfault (hnot fault)
    · exact hkept
  · intro middle fault rest hevents hrest
    subst hevents
    rcases hlate.of_append with ⟨before, _, hafter⟩
    cases hafter with
    | cons refusal rest =>
        cases refusal with
        | refused hcommit =>
            have hnone := (commits_commit hvault hcommit).pending key
            exact rest.unstaged hvault hnone hrest

/-- On a store that can be read and written at any time nothing that was staged is lost. -/
theorem kept_of_reliable (hvault : vault.Holds view) (hreliable : vault.Reliable)
    {early : List Event} {origin : σ}
    (h : History vault view (early ++ .staged key loc :: late) (Session.start, origin)
      (session, s)) : Kept key loc late session := by
  rcases h.after_staged hvault with ⟨middle, hlate, hwaits⟩
  rcases hlate.kept hvault hwaits with ⟨fault, hfault⟩ | hkept
  · rcases hlate.happens (List.mem_of_find?_eq_some hfault) with ⟨before, later, hrefused⟩
    cases hrefused with
    | @refused session _ s _ _ hcommit =>
        rcases Session.commit_succeeds hvault hreliable session s with ⟨_, _, _, hok⟩
        rw [hok] at hcommit
        cases hcommit
  · exact hkept

end Session

/-!
## A sample

The store cannot be read at the moment of the first commit, and can be read again when
the second one comes.
-/

namespace Sample

/-- A vault that can be read while the world outside allows it. -/
def lockable : Vault (StateM (MemoryWorld Bool)) :=
  { MemoryWorld.vault with
    load := fun memory =>
      (if memory.outside then .ok memory.database else .error (.corruptStore "store.json" "locked"),
        memory) }

theorem lockable_holds : lockable.Holds MemoryWorld.view where
  load_still := fun memory => View.Same.refl memory
  load_eq := by
    intro memory db h
    change (if memory.outside = true then Except.ok memory.database else _) = .ok db at h
    split at h
    · cases h
      rfl
    · cases h
  save_ok := MemoryWorld.vault_holds.save_ok
  save_error := MemoryWorld.vault_holds.save_error

def kept (readable : Bool) : MemoryWorld Bool where
  database := database
  saved := []
  outside := readable

def target : Location :=
  placed "designsafe.storage.published" "/published-data/PRJ-1/b.jpg"

def aftermath : List Session.Event :=
  [.elsewhere, .refused (.corruptStore "store.json" "locked"), .elsewhere,
    .committed 0 database database]

theorem aftermath_history :
    Session.History lockable MemoryWorld.view (.staged ⟨.asset, 2⟩ target :: aftermath)
      (Session.start, kept true) (Session.start, kept true) := by
  have hidle : Session.Happens lockable MemoryWorld.view
      (.committed 0 (MemoryWorld.view.database (kept true)) (MemoryWorld.view.database (kept true)))
      (Session.start, kept true) (Session.start, kept true) := .committed rfl
  exact .cons (.staged ⟨.asset, 2⟩ target) (.cons (.elsewhere (kept false)) (.cons (.refused rfl)
    (.cons (.elsewhere (kept true)) (.cons hidle (.nil _)))))

end Sample

/-- Until the first commit the location waits. -/
theorem staged_fate_sample :
    Session.Kept ⟨.asset, 1⟩ (Sample.placed "project-a" "/second.jpg") [.elsewhere]
      Sample.visitor := by
  have hvisited : Session.History MemoryWorld.vault MemoryWorld.view
      ([.read, .staged ⟨.asset, 1⟩ (Sample.placed "project-a" "/first.jpg"),
        .staged ⟨.tileServer, 1⟩ (Sample.placed "project-a" "/moved"),
        .staged ⟨.asset, 2⟩ (Sample.placed "project-a" "/gone.jpg")] ++
        .staged ⟨.asset, 1⟩ (Sample.placed "project-a" "/second.jpg") :: [.elsewhere])
      (Session.start, Sample.tiled) (Sample.visitor, Sample.meddled) := Sample.visited
  rcases Session.staged_fate MemoryWorld.vault_holds hvisited with ⟨hfate, _⟩
  exact hfate.kept_iff.mpr fun fault hfault => nomatch hfault

/-- A commit that is refused loses what waits for it: it is not kept in any way, and the
commit that succeeds later finds nothing to write. -/
theorem staged_lost_when_unreadable :
    Sample.lockable.Holds MemoryWorld.view ∧
    Session.History Sample.lockable MemoryWorld.view
      (.staged ⟨.asset, 2⟩ Sample.target :: Sample.aftermath)
      (Session.start, Sample.kept true) (Session.start, Sample.kept true) ∧
    ¬ Session.Kept ⟨.asset, 2⟩ Sample.target Sample.aftermath Session.start ∧
    (Sample.database.location? ⟨.asset, 2⟩).isSome = true ∧
    Sample.database.location? ⟨.asset, 2⟩ ≠ some Sample.target := by
  refine ⟨Sample.lockable_holds, Sample.aftermath_history, ?_, by decide, by decide⟩
  intro hkept
  exact hkept.not_refused (.corruptStore "store.json" "locked") rfl

end Whereabouts
