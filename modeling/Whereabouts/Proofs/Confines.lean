import Whereabouts.Proofs.Exchanges

/-!
# The confines of a survey

A survey only ever lists directories that the listings before it led to.  What can be
said of every entry there, however the answers change, can be said of every path of the
index.
-/

namespace Whereabouts

variable {ω : Type}

/-- The listings of some directories of a system hold certain entries only, which are
among those directories where they are listed in turn. -/
structure Storage.Leads (storage : Storage (StateM (Recorded ω))) (system : String)
    (directory entry : String -> Prop) : Prop where
  listed : forall path world entries after, directory path ->
    (storage.list system path).run.run world = (.ok entries, after) ->
    forall item, item ∈ entries -> entry item.path
  opened : forall path, entry path -> directory path

theorem Storage.leads_anywhere (storage : Storage (StateM (Recorded ω))) (system : String) :
    storage.Leads system (fun _ => True) (fun _ => True) where
  listed := fun _ _ _ _ _ _ _ _ => trivial
  opened := fun _ _ => trivial

/-- Calls that list some directories of a system. -/
def Listings (system : String) (directory : String -> Prop) (calls : List Exchange) : Prop :=
  forall call, call ∈ calls -> exists path answer,
    call = .list system path answer ∧ directory path

theorem Listings.nil (system : String) (directory : String -> Prop) :
    Listings system directory [] :=
  fun _ hcall => nomatch hcall

theorem Listings.cons {system path : String} {directory : String -> Prop}
    {answer : Except StorageError (List Entry)} {calls : List Exchange}
    (hpath : directory path) (h : Listings system directory calls) :
    Listings system directory (.list system path answer :: calls) := by
  intro call hcall
  rcases List.mem_cons.mp hcall with hcall | hcall
  · exact ⟨path, answer, hcall, hpath⟩
  · exact h call hcall

theorem Listings.append {system : String} {directory : String -> Prop}
    {early late : List Exchange} (h : Listings system directory early)
    (h' : Listings system directory late) : Listings system directory (early ++ late) := by
  intro call hcall
  rcases List.mem_append.mp hcall with hcall | hcall
  · exact h call hcall
  · exact h' call hcall

namespace FileIndex

def Within (index : FileIndex) (entry : String -> Prop) : Prop :=
  forall path, Filed index.entries path ->
    exists full, entry full ∧ path = RemotePath.relative full

variable {index other : FileIndex} {entry : String -> Prop}

theorem within_empty (system : String) : (FileIndex.empty system).Within entry :=
  fun _ hpath => absurd hpath not_filed_empty

theorem Within.merge (h : index.Within entry) (h' : other.Within entry) :
    (index.merge other).Within entry := by
  intro path hpath
  rcases filed_merge hpath with hold | hnew
  · exact h path hold
  · exact h' path hnew

theorem Within.insertFile {item : Entry} (h : index.Within entry) (hitem : entry item.path) :
    (index.insertFile item).Within entry := by
  intro path hpath
  rcases filed_extend hpath with hold | hnew
  · exact h path hold
  · exact ⟨item.path, hitem, List.mem_singleton.mp hnew⟩

end FileIndex

namespace Surveyor

variable {surveyor : Surveyor (StateM (Recorded ω))} {system : String}
  {directory entry : String -> Prop}

/-- Wherever it starts, an operation lists some directories and gives an index of some
entries. -/
def IndexesListed (system : String) (directory entry : String -> Prop)
    (x : StateM (Recorded ω) FileIndex) : Prop :=
  forall world, exists calls, (x.run world).2.exchanges = calls.reverse ++ world.exchanges ∧
    Listings system directory calls ∧ (x.run world).1.Within entry

theorem indexesListed_pure {index : FileIndex} (h : index.Within entry) :
    IndexesListed system directory entry (pure index : StateM (Recorded ω) FileIndex) :=
  fun _ => ⟨[], rfl, .nil system directory, h⟩

theorem indexesListed_bind {x : StateM (Recorded ω) FileIndex}
    {f : FileIndex -> StateM (Recorded ω) FileIndex} (hx : IndexesListed system directory entry x)
    (hf : forall index, index.Within entry -> IndexesListed system directory entry (f index)) :
    IndexesListed system directory entry (x >>= f) := by
  intro world
  rcases hx world with ⟨early, hearly, hlisted, hindex⟩
  rcases hf _ hindex (x.run world).2 with ⟨late, hlate, hlisted', hindex'⟩
  refine ⟨early ++ late, ?_, hlisted.append hlisted', hindex'⟩
  rw [List.reverse_append, List.append_assoc, ← hearly]
  exact hlate

theorem indexesListed_list (hrecords : surveyor.storage.Records)
    (hleads : surveyor.storage.Leads system directory entry) {path : String}
    (hpath : directory path)
    {f : Except StorageError (List Entry) -> StateM (Recorded ω) FileIndex}
    (herror : forall failure, IndexesListed system directory entry (f (.error failure)))
    (hok : forall entries, (forall item, item ∈ entries -> entry item.path) ->
      IndexesListed system directory entry (f (.ok entries))) :
    IndexesListed system directory entry ((surveyor.storage.list system path).run >>= f) := by
  intro world
  have hnoted := hrecords.list system path world
  rcases hcall : (surveyor.storage.list system path).run.run world with ⟨answer, between⟩
  rw [hcall] at hnoted
  rw [View.run_bind_of_eq hcall]
  have hrest : IndexesListed system directory entry (f answer) := by
    cases answer with
    | error failure => exact herror failure
    | ok entries => exact hok entries (hleads.listed path world entries between hpath hcall)
  rcases hrest between with ⟨calls, hcalls, hlisted, hindex⟩
  refine ⟨.list system path answer :: calls, ?_, .cons hpath hlisted, hindex⟩
  rw [List.reverse_cons, List.append_assoc, hcalls, hnoted]
  rfl

theorem indexesListed_visit (hrecords : surveyor.storage.Records)
    (hleads : surveyor.storage.Leads system directory entry)
    {explore : Option (List Entry -> StateM (Recorded ω) FileIndex)}
    (hexplore : forall inner, explore = some inner -> forall entries : List Entry,
      (forall item, item ∈ entries -> entry item.path) ->
        IndexesListed system directory entry (inner entries))
    {index : FileIndex} {item : Entry} (hindex : index.Within entry) (hitem : entry item.path) :
    IndexesListed system directory entry (surveyor.visit system explore index item) := by
  unfold visit
  split
  · exact indexesListed_pure (hindex.insertFile hitem)
  · split
    · exact indexesListed_pure hindex
    · cases explore with
      | none => exact indexesListed_pure hindex
      | some inner =>
          apply indexesListed_list hrecords hleads (hleads.opened item.path hitem)
          · exact fun _ => indexesListed_pure hindex
          · intro children hchildren
            apply indexesListed_bind (hexplore inner rfl children hchildren)
            exact fun _ hother => indexesListed_pure (hindex.merge hother)

theorem indexesListed_foldlM {step : FileIndex -> Entry -> StateM (Recorded ω) FileIndex}
    (hstep : forall (index : FileIndex) (item : Entry), index.Within entry ->
      entry item.path -> IndexesListed system directory entry (step index item))
    {items : List Entry} (hitems : forall item, item ∈ items -> entry item.path)
    {start : FileIndex} (hstart : start.Within entry) :
    IndexesListed system directory entry (items.foldlM step start) := by
  induction items generalizing start with
  | nil => exact indexesListed_pure hstart
  | cons item rest ih =>
      rw [List.foldlM_cons]
      apply indexesListed_bind (hstep start item hstart (hitems item List.mem_cons_self))
      exact fun _ hindex =>
        ih (fun other hother => hitems other (List.mem_cons_of_mem _ hother)) hindex

theorem indexesListed_indexListing (hrecords : surveyor.storage.Records)
    (hleads : surveyor.storage.Leads system directory entry) (depth : Nat)
    {entries : List Entry} (hentries : forall item, item ∈ entries -> entry item.path) :
    IndexesListed system directory entry (surveyor.indexListing system depth entries) := by
  have hstart : (FileIndex.empty system).countDirectory.Within entry :=
    FileIndex.within_empty system
  induction depth generalizing entries with
  | zero =>
      refine indexesListed_foldlM ?_ hentries hstart
      refine fun _ _ => indexesListed_visit hrecords hleads ?_
      intro inner hinner
      cases hinner
  | succ depth ih =>
      refine indexesListed_foldlM ?_ hentries hstart
      refine fun _ _ => indexesListed_visit hrecords hleads ?_
      intro inner hinner entries hentries
      cases hinner
      exact ih hentries

theorem indexesListed_index (hrecords : surveyor.storage.Records)
    (hleads : surveyor.storage.Leads system directory entry) {root : String}
    (hroot : directory root) :
      IndexesListed system directory entry (surveyor.index system root) := by
  apply indexesListed_list hrecords hleads hroot
  · exact fun _ => indexesListed_pure (FileIndex.within_empty system)
  · exact fun _ hentries => indexesListed_indexListing hrecords hleads surveyor.depth hentries

end Surveyor
end Whereabouts
