import Whereabouts.Proofs.Lockstep
import Whereabouts.Proofs.OrderedMap

/-!
# Exchanges with remote storage

A remote storage that keeps a record of its calls and answers.  Whatever it answers, and
however its answers change, the paths of an index are those of files that were listed
while the index was built.
-/

namespace Whereabouts

variable {ω α : Type}

/-!
## Records
-/

/-- A call of remote storage with its answer. -/
inductive Exchange where
  | list (system path : String) (answer : Except StorageError (List Entry))
  | stat (system path : String) (answer : Except StorageError Entry)
  | externalId (system : String) (answer : Except StorageError (Option String))

/-- The exchanges so far, the latest first, and the state of a remote storage. -/
structure Recorded (ω : Type) where
  exchanges : List Exchange
  inner : ω

def Recorded.noted (exchange : α -> Exchange) (x : StateM ω α) : StateM (Recorded ω) α :=
  fun world =>
    let out := x.run world.inner
    (out.1, { exchanges := exchange out.1 :: world.exchanges, inner := out.2 })

def Storage.recorded (remote : Storage (StateM ω)) : Storage (StateM (Recorded ω)) where
  list := fun system path =>
    ExceptT.mk (Recorded.noted (.list system path) (remote.list system path).run)
  stat := fun system path =>
    ExceptT.mk (Recorded.noted (.stat system path) (remote.stat system path).run)
  externalId := fun system =>
    ExceptT.mk (Recorded.noted (.externalId system) (remote.externalId system).run)

/-- A storage that adds each of its calls to the record. -/
structure Storage.Records (storage : Storage (StateM (Recorded ω))) : Prop where
  list : forall system path world,
    ((storage.list system path).run.run world).2.exchanges =
      .list system path ((storage.list system path).run.run world).1 :: world.exchanges
  stat : forall system path world,
    ((storage.stat system path).run.run world).2.exchanges =
      .stat system path ((storage.stat system path).run.run world).1 :: world.exchanges
  externalId : forall system world,
    ((storage.externalId system).run.run world).2.exchanges =
      .externalId system ((storage.externalId system).run.run world).1 :: world.exchanges

theorem Storage.recorded_records (remote : Storage (StateM ω)) : remote.recorded.Records where
  list := fun _ _ _ => rfl
  stat := fun _ _ _ => rfl
  externalId := fun _ _ => rfl

/-- A record as the latest part of a longer one. -/
def Recorded.onto (early : List Exchange) (world : Recorded ω) : Recorded ω :=
  { world with exchanges := world.exchanges ++ early }

/-- Operations of which one does to an image of a world what the other does to the
world. -/
def Lockstep.along {υ : Type} (image : ω -> υ) : Lockstep (StateM ω) (StateM υ) where
  Rel x y := forall world, y.run (image world) = ((x.run world).1, image (x.run world).2)
  rel_pure _ _ := rfl
  rel_bind := by
    intro α β x y f g hx hf world
    rw [StateT.run_bind, hx world]
    exact hf (x.run world).1 (x.run world).2

theorem Storage.recorded_along_inner (remote : Storage (StateM ω)) :
    (Lockstep.along Recorded.inner).Storages remote.recorded remote where
  list := fun _ _ _ => rfl
  stat := fun _ _ _ => rfl
  externalId := fun _ _ => rfl

theorem Storage.recorded_along_onto (remote : Storage (StateM ω)) (early : List Exchange) :
    (Lockstep.along (Recorded.onto early)).Storages remote.recorded remote.recorded where
  list := fun _ _ _ => rfl
  stat := fun _ _ _ => rfl
  externalId := fun _ _ => rfl

/-!
## Paths of an index
-/

/-- A path is that of a file which a listing of the system had. -/
def Offered (exchanges : List Exchange) (system path : String) : Prop :=
  exists directory entries entry,
    Exchange.list system directory (.ok entries) ∈ exchanges ∧ entry ∈ entries ∧
      entry.isDirectory = false ∧ path = RemotePath.relative entry.path

theorem Offered.mono {early late : List Exchange} {system path : String}
    (h : Offered early system path) (hsub : early ⊆ late) : Offered late system path := by
  rcases h with ⟨directory, entries, entry, hlisted, hentry⟩
  exact ⟨directory, entries, entry, hsub hlisted, hentry⟩

namespace FileIndex

def Filed (entries : OrderedMap String (List String)) (path : String) : Prop :=
  exists name paths, entries.get? name = some paths ∧ path ∈ paths

def Backed (index : FileIndex) (exchanges : List Exchange) (system : String) : Prop :=
  forall path, Filed index.entries path -> Offered exchanges system path

variable {entries : OrderedMap String (List String)} {path : String}

theorem not_filed_empty : ¬ Filed .empty path := by
  intro h
  rcases h with ⟨name, paths, hpaths, _⟩
  cases hpaths

theorem filed_extend {name : String} {paths : List String}
    (h : Filed (extend entries name paths) path) : Filed entries path ∨ path ∈ paths := by
  rcases h with ⟨other, found, hfound, hpath⟩
  unfold extend OrderedMap.alter at hfound
  rw [OrderedMap.get?_insert] at hfound
  split at hfound
  · cases hfound
    rcases List.mem_append.mp hpath with hold | hnew
    · cases hget : entries.get? name with
      | none => simp [hget] at hold
      | some old =>
          rw [hget] at hold
          exact Or.inl ⟨name, old, hget, hold⟩
    · exact Or.inr hnew
  · exact Or.inl ⟨other, found, hfound, hpath⟩

theorem filed_foldl_extend {added : List (String × List String)}
    (h : Filed (added.foldl (fun entries entry => extend entries entry.1 entry.2) entries)
      path) : Filed entries path ∨ exists entry, entry ∈ added ∧ path ∈ entry.2 := by
  induction added generalizing entries with
  | nil => exact Or.inl h
  | cons first rest ih =>
      rcases ih h with hfirst | ⟨entry, hentry, hpath⟩
      · rcases filed_extend hfirst with hold | hnew
        · exact Or.inl hold
        · exact Or.inr ⟨first, List.mem_cons_self, hnew⟩
      · exact Or.inr ⟨entry, List.mem_cons_of_mem _ hentry, hpath⟩

theorem filed_merge {index other : FileIndex} (h : Filed (index.merge other).entries path) :
    Filed index.entries path ∨ Filed other.entries path := by
  rcases filed_foldl_extend h with hold | ⟨entry, hentry, hpath⟩
  · exact Or.inl hold
  · exact Or.inr ⟨entry.1, entry.2, OrderedMap.get?_eq_some_iff.mpr hentry, hpath⟩

theorem filed_of_resolve? {index : FileIndex} {found : String}
    (h : index.resolve? path = some found) : Filed index.entries found := by
  unfold resolve? at h
  cases hname : RemotePath.fileName? path with
  | none =>
      rw [hname] at h
      cases h
  | some name =>
      rw [hname] at h
      dsimp only at h
      split at h
      · rename_i first rest hget
        cases h
        exact ⟨name, found :: rest, hget, List.mem_cons_self⟩
      · cases h

variable {index other : FileIndex} {exchanges late : List Exchange} {system : String}

theorem Backed.mono (h : index.Backed exchanges system) (hsub : exchanges ⊆ late) :
    index.Backed late system :=
  fun path hpath => (h path hpath).mono hsub

theorem backed_empty (name : String) : (FileIndex.empty name).Backed exchanges system :=
  fun _ hpath => absurd hpath not_filed_empty

theorem Backed.merge (h : index.Backed exchanges system) (h' : other.Backed exchanges system) :
    (index.merge other).Backed exchanges system := by
  intro path hpath
  rcases filed_merge hpath with hold | hnew
  · exact h path hold
  · exact h' path hnew

theorem Backed.insertFile {entry : Entry} {directory : String} {listing : List Entry}
    (h : index.Backed exchanges system)
    (hlisted : Exchange.list system directory (.ok listing) ∈ exchanges)
    (hentry : entry ∈ listing) (hfile : entry.isDirectory = false) :
    (index.insertFile entry).Backed exchanges system := by
  intro path hpath
  rcases filed_extend hpath with hold | hnew
  · exact h path hold
  · exact ⟨directory, listing, entry, hlisted, hentry, hfile, List.mem_singleton.mp hnew⟩

end FileIndex

/-!
## Surveys
-/

namespace Surveyor

variable {surveyor : Surveyor (StateM (Recorded ω))} {system : String}

/-- In a world an operation adds to the record and gives an index that the record
backs. -/
def Gathers (system : String) (x : StateM (Recorded ω) FileIndex) (world : Recorded ω) :
    Prop :=
  world.exchanges ⊆ (x.run world).2.exchanges ∧
    (x.run world).1.Backed (x.run world).2.exchanges system

/-- A way to explore a listing that gathers wherever the listing is in the record. -/
def Explores (system : String) (explore : List Entry -> StateM (Recorded ω) FileIndex) :
    Prop :=
  forall directory listing world,
    Exchange.list system directory (.ok listing) ∈ world.exchanges ->
      Gathers system (explore listing) world

theorem gathers_visit (hrecords : surveyor.storage.Records)
    {explore : Option (List Entry -> StateM (Recorded ω) FileIndex)}
    (hexplore : forall inner, explore = some inner -> Explores system inner)
    {index : FileIndex} {entry : Entry} {directory : String} {listing : List Entry}
    {world : Recorded ω}
    (hlisted : Exchange.list system directory (.ok listing) ∈ world.exchanges)
    (hentry : entry ∈ listing) (hindex : index.Backed world.exchanges system) :
    Gathers system (surveyor.visit system explore index entry) world := by
  unfold visit
  cases hdirectory : entry.isDirectory with
  | false => exact ⟨List.Subset.refl _, hindex.insertFile hlisted hentry hdirectory⟩
  | true =>
      simp only [Bool.not_true, Bool.false_eq_true, if_false]
      split
      · exact ⟨List.Subset.refl _, hindex⟩
      · cases explore with
        | none => exact ⟨List.Subset.refl _, hindex⟩
        | some inner =>
            have hnoted := hrecords.list system entry.path world
            rcases hcall : (surveyor.storage.list system entry.path).run.run world with
              ⟨answer, between⟩
            rw [hcall] at hnoted
            have hsub : world.exchanges ⊆ between.exchanges := by
              rw [hnoted]
              exact List.subset_cons_self _ _
            unfold Gathers
            rw [View.run_bind_of_eq hcall]
            cases answer with
            | error failure => exact ⟨hsub, hindex.mono hsub⟩
            | ok children =>
                have hchildren : Exchange.list system entry.path (.ok children) ∈
                    between.exchanges := by
                  rw [hnoted]
                  exact List.mem_cons_self
                rcases hexplore inner rfl entry.path children between hchildren with
                  ⟨hsub', hother⟩
                have hall := List.Subset.trans hsub hsub'
                exact ⟨hall, (hindex.mono hall).merge hother⟩

theorem explores_foldlM
    {step : FileIndex -> Entry -> StateM (Recorded ω) FileIndex} {start : FileIndex}
    (hstart : start.Backed [] system)
    (hstep : forall directory listing index entry world,
      Exchange.list system directory (.ok listing) ∈ world.exchanges -> entry ∈ listing ->
        index.Backed world.exchanges system -> Gathers system (step index entry) world) :
    Explores system (fun entries => entries.foldlM step start) := by
  intro directory listing world hlisted
  have hrest : forall (rest : List Entry) (index : FileIndex) (between : Recorded ω),
      rest ⊆ listing -> world.exchanges ⊆ between.exchanges ->
        index.Backed between.exchanges system ->
          Gathers system (rest.foldlM step index) between := by
    intro rest
    induction rest with
    | nil => exact fun index between _ _ hindex => ⟨List.Subset.refl _, hindex⟩
    | cons entry rest ih =>
        intro index between hsub hearly hindex
        rcases hstep directory listing index entry between (hearly hlisted)
          (hsub List.mem_cons_self) hindex with ⟨hmore, hnext⟩
        rcases ih ((step index entry).run between).1 ((step index entry).run between).2
          (fun other hother => hsub (List.mem_cons_of_mem _ hother))
          (List.Subset.trans hearly hmore) hnext with ⟨hmore', hlast⟩
        rw [List.foldlM_cons]
        exact ⟨List.Subset.trans hmore hmore', hlast⟩
  exact hrest listing start world (List.Subset.refl _) (List.Subset.refl _)
    (hstart.mono (List.nil_subset _))

theorem explores_indexListing (hrecords : surveyor.storage.Records) (system : String)
    (depth : Nat) : Explores system (surveyor.indexListing system depth) := by
  have hstart : (FileIndex.empty system).countDirectory.Backed [] system :=
    FileIndex.backed_empty system
  induction depth with
  | zero =>
      apply explores_foldlM hstart
      intro directory listing index entry world hlisted hentry hindex
      refine gathers_visit hrecords ?_ hlisted hentry hindex
      intro inner hinner
      cases hinner
  | succ depth ih =>
      apply explores_foldlM hstart
      intro directory listing index entry world hlisted hentry hindex
      refine gathers_visit hrecords ?_ hlisted hentry hindex
      intro inner hinner
      cases hinner
      exact ih

theorem gathers_index (hrecords : surveyor.storage.Records) (system root : String)
    (world : Recorded ω) : Gathers system (surveyor.index system root) world := by
  have hnoted := hrecords.list system root world
  rcases hcall : (surveyor.storage.list system root).run.run world with ⟨answer, between⟩
  rw [hcall] at hnoted
  have hsub : world.exchanges ⊆ between.exchanges := by
    rw [hnoted]
    exact List.subset_cons_self _ _
  unfold Gathers index
  rw [View.run_bind_of_eq hcall]
  cases answer with
  | error failure => exact ⟨hsub, FileIndex.backed_empty system⟩
  | ok entries =>
      have hlisted : Exchange.list system root (.ok entries) ∈ between.exchanges := by
        rw [hnoted]
        exact List.mem_cons_self
      rcases explores_indexListing hrecords system surveyor.depth root entries between hlisted
        with ⟨hsub', hindex⟩
      exact ⟨List.Subset.trans hsub hsub', hindex⟩

end Surveyor
end Whereabouts
