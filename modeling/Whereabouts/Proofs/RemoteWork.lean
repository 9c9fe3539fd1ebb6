import Whereabouts.Proofs.Confines

/-!
# Remote work

The work that a pass has done in a world, piece by piece, with what is remembered of each
piece.  What is remembered is never asked for again, whatever remote storage answers and
wherever the pass fails.
-/

namespace Whereabouts

variable {ω α β : Type}

/-!
## Memories
-/

/-- What becomes of a memory while attempts are made for some keys, each with a success
or not.  Only what is not remembered is attempted, a success is remembered, and nothing
that is remembered is changed or attempted again. -/
structure OrderedMap.Learns (before after : OrderedMap String α)
    (attempts : List (String × Bool)) : Prop where
  fresh : forall attempt, attempt ∈ attempts -> before.get? attempt.1 = none
  learned : forall key, (key, true) ∈ attempts -> (after.get? key).isSome = true
  kept : forall key value, before.get? key = some value -> after.get? key = some value
  once : attempts.Pairwise fun earlier later => earlier.2 = true -> later.1 ≠ earlier.1

namespace OrderedMap

variable {before between after : OrderedMap String α} {key : String}

theorem Learns.refl (map : OrderedMap String α) : map.Learns map [] where
  fresh := (fun _ h => nomatch h)
  learned := (fun _ h => nomatch h)
  kept := fun _ _ h => h
  once := .nil

theorem Learns.failed (h : before.get? key = none) : before.Learns before [(key, false)] where
  fresh := by
    intro attempt hattempt
    rw [List.mem_singleton.mp hattempt]
    exact h
  learned := by
    intro other hother
    cases List.mem_singleton.mp hother
  kept := fun _ _ hvalue => hvalue
  once := List.pairwise_singleton _ _

theorem get?_insert_of_fresh {value : α} (h : before.get? key = none) {other : String}
    {known : α} (hknown : before.get? other = some known) :
    (before.insert key value).get? other = some known := by
  rw [get?_insert_of_ne]
  · exact hknown
  · intro heq
    rw [heq, h] at hknown
    cases hknown

theorem Learns.noted (h : before.get? key = none) (value : α) :
    before.Learns (before.insert key value) [] where
  fresh := (fun _ hattempt => nomatch hattempt)
  learned := (fun _ hattempt => nomatch hattempt)
  kept := fun _ _ hvalue => get?_insert_of_fresh h hvalue
  once := .nil

theorem Learns.succeeded (h : before.get? key = none) (value : α) :
    before.Learns (before.insert key value) [(key, true)] where
  fresh := by
    intro attempt hattempt
    rw [List.mem_singleton.mp hattempt]
    exact h
  learned := by
    intro other hother
    cases List.mem_singleton.mp hother
    rw [get?_insert_self]
    rfl
  kept := fun _ _ hvalue => get?_insert_of_fresh h hvalue
  once := List.pairwise_singleton _ _

theorem Learns.trans {early late : List (String × Bool)} (h : before.Learns between early)
    (h' : between.Learns after late) : before.Learns after (early ++ late) where
  fresh := by
    intro attempt hattempt
    rcases List.mem_append.mp hattempt with hattempt | hattempt
    · exact h.fresh attempt hattempt
    · -- What was remembered at first would still be remembered in between.
      have hbetween := h'.fresh attempt hattempt
      cases hbefore : before.get? attempt.1 with
      | none => rfl
      | some value =>
          rw [h.kept _ value hbefore] at hbetween
          cases hbetween
  learned := by
    intro key hkey
    rcases List.mem_append.mp hkey with hkey | hkey
    · rcases Option.isSome_iff_exists.mp (h.learned key hkey) with ⟨value, hvalue⟩
      rw [h'.kept key value hvalue]
      rfl
    · exact h'.learned key hkey
  kept := fun key value hvalue => h'.kept key value (h.kept key value hvalue)
  once := by
    refine List.pairwise_append.mpr ⟨h.once, h'.once, ?_⟩
    intro earlier hearlier later hlater hsuccess heq
    rcases earlier with ⟨key, success⟩
    cases hsuccess
    dsimp only at heq
    have hlearned := h.learned key hearlier
    rw [← heq, h'.fresh later hlater] at hlearned
    cases hlearned

/-- When every attempt succeeds there is one for each key at most. -/
theorem Learns.nodup {keys : List String}
    (h : before.Learns after (keys.map fun key => (key, true))) : keys.Nodup := by
  refine (List.pairwise_map.mp h.once).imp ?_
  intro earlier later hne heq
  exact hne rfl heq.symm

end OrderedMap

/-!
## Pieces of work
-/

/-- A piece of remote work: a call that is made for its own sake, or an index that is built. -/
inductive RemoteWork where
  | call (exchange : Exchange)
  | build (target : IndexTarget)

inductive RemoteWork.Kind where
  | lookup
  | published
  | owner
  | stat
  | list
  deriving DecidableEq

/-- The system that an exchange looks up, and whether there was an answer. -/
def Exchange.lookup? : Exchange -> Option (String × Bool)
  | .externalId system (.ok _) => some (system, true)
  | .externalId system (.error _) => some (system, false)
  | _ => none

def IndexTarget.published? : IndexTarget -> Option String
  | published system _ => some system
  | owner _ => none

def IndexTarget.owner? : IndexTarget -> Option String
  | published _ _ => none
  | owner system => some system

namespace RemoteWork

def kind : RemoteWork -> Kind
  | call (.externalId _ _) => .lookup
  | call (.stat _ _ _) => .stat
  | call (.list _ _ _) => .list
  | build (.published _ _) => .published
  | build (.owner _) => .owner

def lookup? : RemoteWork -> Option (String × Bool)
  | call exchange => exchange.lookup?
  | build _ => none

def published? : RemoteWork -> Option String
  | call _ => none
  | build target => target.published?

def owner? : RemoteWork -> Option String
  | call _ => none
  | build target => target.owner?

/-- A look-up without an answer. -/
def isRefused : RemoteWork -> Bool
  | call (.externalId _ (.error _)) => true
  | _ => false

end RemoteWork

/-!
## Moves
-/

namespace Surveyor

/-- What a pass may do at a time: a piece of work, with what is remembered of it, or to
remember that a system has no published copy. -/
inductive Move (surveyor : Surveyor (StateM ω)) (build : IndexTarget -> StateM ω FileIndex) :
    Caches × ω -> Option RemoteWork -> Caches × ω -> Prop
  | answered {caches : Caches} {world after : ω} {system : String} {id : Option String}
      (hproject : (surveyor.engine.projectUuid? system).isSome = true)
      (hunknown : caches.externalIds.get? system = none)
      (hcall : (surveyor.storage.externalId system).run.run world = (.ok id, after)) :
      Move surveyor build (caches, world) (some (.call (.externalId system (.ok id))))
        ({ caches with externalIds := caches.externalIds.insert system id }, after)
  | refused {caches : Caches} {world after : ω} {system : String} {failure : StorageError}
      (hproject : (surveyor.engine.projectUuid? system).isSome = true)
      (hunknown : caches.externalIds.get? system = none)
      (hcall : (surveyor.storage.externalId system).run.run world = (.error failure, after)) :
      Move surveyor build (caches, world) (some (.call (.externalId system (.error failure))))
        (caches, after)
  | uncopied {caches : Caches} {world : ω} {system : String}
      (hunknown : caches.published.get? system = none) :
      Move surveyor build (caches, world) none
        ({ caches with published := caches.published.insert system none }, world)
  | copied {caches : Caches} {world after : ω} {system id : String} {index : FileIndex}
      (hproject : (surveyor.engine.projectUuid? system).isSome = true)
      (hunknown : caches.published.get? system = none)
      (hlinked : caches.externalIds.get? system = some (some id))
      (hbuild : (build (.published system id)).run world = (index, after)) :
      Move surveyor build (caches, world) (some (.build (.published system id)))
        ({ caches with published := caches.published.insert system (some index) }, after)
  | surveyed {caches : Caches} {world after : ω} {owner : String} {index : FileIndex}
      (hunknown : caches.owners.get? owner = none)
      (hbuild : (build (.owner owner)).run world = (index, after)) :
      Move surveyor build (caches, world) (some (.build (.owner owner)))
        ({ caches with owners := caches.owners.insert owner index }, after)
  | described {caches : Caches} {world after : ω} {owner path : String}
      {answer : Except StorageError Entry}
      (hcall : (surveyor.storage.stat owner path).run.run world = (answer, after)) :
      Move surveyor build (caches, world) (some (.call (.stat owner path answer)))
        (caches, after)
  | listed {caches : Caches} {world after : ω} {owner path : String}
      {answer : Except StorageError (List Entry)}
      (hcall : (surveyor.storage.list owner path).run.run world = (answer, after)) :
      Move surveyor build (caches, world) (some (.call (.list owner path answer)))
        (caches, after)

inductive Moves (surveyor : Surveyor (StateM ω)) (build : IndexTarget -> StateM ω FileIndex) :
    Caches × ω -> List RemoteWork -> Caches × ω -> Prop
  | nil (start : Caches × ω) : Moves surveyor build start [] start
  | cons {start between after : Caches × ω} {piece : Option RemoteWork}
      {work : List RemoteWork} (first : Move surveyor build start piece between)
      (others : Moves surveyor build between work after) :
      Moves surveyor build start (piece.toList ++ work) after

variable {surveyor : Surveyor (StateM ω)} {build : IndexTarget -> StateM ω FileIndex}
  {start between after : Caches × ω} {piece : Option RemoteWork} {work more : List RemoteWork}

theorem Move.moves (h : surveyor.Move build start piece after) :
    surveyor.Moves build start piece.toList after := by
  have hmoves := Moves.cons h (.nil after)
  rw [List.append_nil] at hmoves
  exact hmoves

theorem Moves.trans (h : surveyor.Moves build start work between)
    (h' : surveyor.Moves build between more after) :
    surveyor.Moves build start (work ++ more) after := by
  induction h with
  | nil => exact h'
  | cons first others ih =>
      rw [List.append_assoc]
      exact .cons first (ih h')

/-!
What a single move does to the memories, and then what moves do.
-/

theorem Move.externalIds (h : surveyor.Move build start piece after) :
    start.1.externalIds.Learns after.1.externalIds
      (piece.toList.filterMap RemoteWork.lookup?) := by
  cases h with
  | answered hproject hunknown hcall => exact .succeeded hunknown _
  | refused hproject hunknown hcall => exact .failed hunknown
  | _ => exact .refl _

theorem Move.published (h : surveyor.Move build start piece after) :
    start.1.published.Learns after.1.published
      ((piece.toList.filterMap RemoteWork.published?).map fun system => (system, true)) := by
  cases h with
  | uncopied hunknown => exact .noted hunknown none
  | copied hproject hunknown hlinked hbuild => exact .succeeded hunknown _
  | _ => exact .refl _

theorem Move.owners (h : surveyor.Move build start piece after) :
    start.1.owners.Learns after.1.owners
      ((piece.toList.filterMap RemoteWork.owner?).map fun owner => (owner, true)) := by
  cases h with
  | surveyed hunknown hbuild => exact .succeeded hunknown _
  | _ => exact .refl _

theorem Move.project (h : surveyor.Move build start piece after) {system : String}
    {answer : Except StorageError (Option String)}
    (hlookup : .call (.externalId system answer) ∈ piece.toList) :
    (surveyor.engine.projectUuid? system).isSome = true := by
  cases h with
  | answered hproject _ _ | refused hproject _ _ =>
      cases List.mem_singleton.mp hlookup
      exact hproject
  | uncopied => cases hlookup
  | _ => cases List.mem_singleton.mp hlookup

theorem Moves.externalIds (h : surveyor.Moves build start work after) :
    start.1.externalIds.Learns after.1.externalIds (work.filterMap RemoteWork.lookup?) := by
  induction h with
  | nil start => exact .refl _
  | cons first others ih =>
      rw [List.filterMap_append]
      exact first.externalIds.trans ih

theorem Moves.published (h : surveyor.Moves build start work after) :
    start.1.published.Learns after.1.published
      ((work.filterMap RemoteWork.published?).map fun system => (system, true)) := by
  induction h with
  | nil start => exact .refl _
  | cons first others ih =>
      rw [List.filterMap_append, List.map_append]
      exact first.published.trans ih

theorem Moves.owners (h : surveyor.Moves build start work after) :
    start.1.owners.Learns after.1.owners
      ((work.filterMap RemoteWork.owner?).map fun owner => (owner, true)) := by
  induction h with
  | nil start => exact .refl _
  | cons first others ih =>
      rw [List.filterMap_append, List.map_append]
      exact first.owners.trans ih

theorem Moves.project (h : surveyor.Moves build start work after) {system : String}
    {answer : Except StorageError (Option String)}
    (hlookup : .call (.externalId system answer) ∈ work) :
    (surveyor.engine.projectUuid? system).isSome = true := by
  induction h with
  | nil start => cases hlookup
  | cons first others ih =>
      rcases List.mem_append.mp hlookup with hlookup | hlookup
      · exact first.project hlookup
      · exact ih hlookup

theorem Moves.linked (h : surveyor.Moves build start work after) {system id : String}
    (hcopy : .build (.published system id) ∈ work) :
    after.1.externalIds.get? system = some (some id) := by
  induction h with
  | nil start => cases hcopy
  | cons first others ih =>
      rcases List.mem_append.mp hcopy with hcopy | hcopy
      · cases first with
        | copied hproject hunknown hlinked hbuild =>
            cases List.mem_singleton.mp hcopy
            exact others.externalIds.kept system _ hlinked
        | uncopied => cases hcopy
        | _ => cases List.mem_singleton.mp hcopy
      · exact ih hcopy

end Surveyor

/-!
## What the record shows
-/

theorem Listings.filterMap_lookup? {system : String} {directory : String -> Prop}
    {calls : List Exchange} (h : Listings system directory calls) :
    calls.filterMap Exchange.lookup? = [] := by
  apply List.filterMap_eq_nil_iff.mpr
  intro call hcall
  rcases h call hcall with ⟨path, answer, rfl, _⟩
  rfl

namespace Surveyor

variable {storage : Storage (StateM (Recorded ω))} {system path : String}
  {world next : Recorded ω}

theorem exchanges_of_externalId (h : storage.Records)
    {answer : Except StorageError (Option String)}
    (hcall : (storage.externalId system).run.run world = (answer, next)) :
    next.exchanges = .externalId system answer :: world.exchanges := by
  have hnoted := h.externalId system world
  rw [hcall] at hnoted
  exact hnoted

theorem exchanges_of_stat (h : storage.Records) {answer : Except StorageError Entry}
    (hcall : (storage.stat system path).run.run world = (answer, next)) :
    next.exchanges = .stat system path answer :: world.exchanges := by
  have hnoted := h.stat system path world
  rw [hcall] at hnoted
  exact hnoted

theorem exchanges_of_list (h : storage.Records) {answer : Except StorageError (List Entry)}
    (hcall : (storage.list system path).run.run world = (answer, next)) :
    next.exchanges = .list system path answer :: world.exchanges := by
  have hnoted := h.list system path world
  rw [hcall] at hnoted
  exact hnoted

variable {surveyor : Surveyor (StateM (Recorded ω))} {start after : Caches × Recorded ω}
  {piece : Option RemoteWork} {work : List RemoteWork}

theorem exchanges_of_build (hrecords : surveyor.storage.Records) {target : IndexTarget}
    {index : FileIndex} (h : (surveyor.build target).run world = (index, next)) :
    exists calls : List Exchange, next.exchanges = calls.reverse ++ world.exchanges ∧
      calls.filterMap Exchange.lookup? = [] := by
  have hindexes : forall system root, exists calls : List Exchange,
      ((surveyor.index system root).run world).2.exchanges =
        calls.reverse ++ world.exchanges ∧ calls.filterMap Exchange.lookup? = [] := by
    intro system root
    rcases indexesListed_index hrecords (surveyor.storage.leads_anywhere system) trivial world with
      ⟨calls, hcalls, hlistings, _⟩
    exact ⟨calls, hcalls, hlistings.filterMap_lookup?⟩
  have hnext : next = ((surveyor.build target).run world).2 := by rw [h]
  rw [hnext]
  cases target with
  | published system id => exact hindexes _ _
  | owner system => exact hindexes _ _

/-- What is recorded in the meantime has the look-ups of the work that is done. -/
theorem Move.exchanges (hrecords : surveyor.storage.Records)
    (h : surveyor.Move surveyor.build start piece after) :
    exists calls : List Exchange, after.2.exchanges = calls.reverse ++ start.2.exchanges ∧
      calls.filterMap Exchange.lookup? = piece.toList.filterMap RemoteWork.lookup? := by
  cases h with
  | answered _ _ hcall | refused _ _ hcall =>
      exact ⟨[_], exchanges_of_externalId hrecords hcall, rfl⟩
  | uncopied => exact ⟨[], rfl, rfl⟩
  | copied _ _ _ hbuild | surveyed _ hbuild => exact exchanges_of_build hrecords hbuild
  | described hcall => exact ⟨[_], exchanges_of_stat hrecords hcall, rfl⟩
  | listed hcall => exact ⟨[_], exchanges_of_list hrecords hcall, rfl⟩

theorem Moves.exchanges (hrecords : surveyor.storage.Records)
    (h : surveyor.Moves surveyor.build start work after) :
    exists calls : List Exchange, after.2.exchanges = calls.reverse ++ start.2.exchanges ∧
      calls.filterMap Exchange.lookup? = work.filterMap RemoteWork.lookup? := by
  induction h with
  | nil start => exact ⟨[], rfl, rfl⟩
  | cons first others ih =>
      rcases first.exchanges hrecords with ⟨early, hearly, hlookups⟩
      rcases ih with ⟨late, hlate, hlookups'⟩
      refine ⟨early ++ late, ?_, ?_⟩
      · rw [hlate, hearly, List.reverse_append, List.append_assoc]
      · rw [List.filterMap_append, hlookups, hlookups', List.filterMap_append]

end Surveyor
end Whereabouts
