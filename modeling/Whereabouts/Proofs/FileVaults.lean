import Whereabouts.Proofs.Batches
import Whereabouts.Proofs.StoreFiles

/-!
# The vault in a store file

Of the vault that a check works with it is assumed that it holds the database, and for
some results that it can always be read and written.  The vault in a store file does what
is assumed as soon as the disk keeps the file and nobody else writes it.
-/

namespace Whereabouts

variable {σ ω : Type}

namespace StoreFile

variable {file : StoreFile} {disk : Disk (StateM σ)} {view : View σ ω}

/-- A disk on which a store file is the document of the database at all times. -/
structure Documents (file : StoreFile) (disk : Disk (StateM σ)) (view : View σ ω) : Prop where
  kept : file.Kept disk fun s => some (view.database s).document.toUTF8
  spared : file.Spared disk fun s => (view.database s, view.saved s, view.outside s)
  replaced : forall db s after, (disk.replace file.path db.document).run.run s = (.ok (), after) ->
    view.saved after = db :: view.saved s ∧ view.outside after = view.outside s
  refused : forall text s after failure,
    (disk.replace file.path text).run.run s = (.error failure, after) -> view.Same s after

theorem on_save (db : Database) {s after : σ} {result : Except DiskError Unit}
    (h : (disk.replace file.path db.document).run.run s = (result, after)) :
    ((file.vault disk).save db).on s = (result.mapError fun failure =>
      .within ("failed to write " ++ file.path) (.notSaved failure), after) := by
  refine Eq.trans (View.run_bind_of_eq h) ?_
  cases result with
  | ok _ => rfl
  | error failure => rfl

theorem Documents.load_eq (h : file.Documents disk view) (s : σ) :
    ((file.vault disk).load.on s).1 =
      ((file.openLock disk).on s).1.map fun _ => view.database s := by
  rcases hopen : (file.openLock disk).on s with ⟨result, opened⟩
  cases result with
  | error fault => exact congrArg Prod.fst (Attempt.on_bind_of_error hopen)
  | ok _ =>
      refine (h.kept.load_text hopen rfl).trans ?_
      rw [Database.ofDocument?_document]
      rfl

theorem Documents.holds (h : file.Documents disk view) : (file.vault disk).Holds view where
  load_still := by
    intro s
    have htold := h.spared.load s
    exact ⟨congrArg Prod.fst htold, congrArg (fun told => told.2.1) htold,
      congrArg (fun told => told.2.2) htold⟩
  load_eq := by
    intro s db hload
    rw [h.load_eq s] at hload
    cases hopen : ((file.openLock disk).on s).1 with
    | error fault =>
        rw [hopen] at hload
        cases hload
    | ok _ =>
        rw [hopen] at hload
        cases hload
        rfl
  save_ok := by
    intro db s hok
    rcases hreplace : (disk.replace file.path db.document).run.run s with ⟨result, after⟩
    rw [on_save db hreplace] at hok ⊢
    cases result with
    | error failure => cases hok
    | ok _ =>
        have hcontent := h.kept.of_save (on_save db hreplace)
        have hdb := congrArg Database.ofDocument?
          (String.toByteArray_inj.mp (Option.some.inj hcontent))
        rw [Database.ofDocument?_document, Database.ofDocument?_document] at hdb
        exact ⟨Option.some.inj hdb, h.replaced db s after hreplace⟩
  save_error := by
    intro db s fault herror
    rcases hreplace : (disk.replace file.path db.document).run.run s with ⟨result, after⟩
    rw [on_save db hreplace] at herror ⊢
    cases result with
    | ok _ => cases herror
    | error failure => exact h.refused db.document s after failure hreplace

theorem Documents.reliable (h : file.Documents disk view)
    (hlock : forall s fault, ((file.openLock disk).on s).1 ≠ .error fault)
    (hwrite : forall (db : Database) s failure,
      ((disk.replace file.path db.document).run.run s).1 ≠ .error failure) :
    (file.vault disk).Reliable where
  readable := by
    intro fault hunread
    rcases hunread with ⟨s, hload⟩
    rw [h.load_eq s] at hload
    have hopened := hlock s
    cases hopen : ((file.openLock disk).on s).1 with
    | error other => exact hopened other hopen
    | ok _ =>
        rw [hopen] at hload
        cases hload
  writable := by
    intro db s fault herror
    have hwritten := hwrite db s
    rcases hreplace : (disk.replace file.path db.document).run.run s with ⟨result, after⟩
    rw [on_save db hreplace] at herror
    rw [hreplace] at hwritten
    cases result with
    | ok _ => cases herror
    | error failure => exact hwritten failure rfl

end StoreFile

/-!
## A disk with nothing but the document
-/

namespace MemoryWorld

variable {file : StoreFile}

def putDocument (file : StoreFile) (path text : String) : Filing (StateM (MemoryWorld ω)) Unit :=
  fun memory =>
    match Database.ofDocument? text with
    | some db =>
        if path = file.path ∧ db.document = text then
          (.ok (), { memory with database := db, saved := db :: memory.saved })
        else (.error .inUse, memory)
    | none => (.error .inUse, memory)

/-- A disk in memory with every directory and every lock file.  Its only other file is the
document of the database. -/
def disk (file : StoreFile) : Disk (StateM (MemoryWorld ω)) where
  inspect path := fun memory =>
    (if path = file.path then .ok (.file memory.database.document.utf8ByteSize)
      else .error .missing, memory)
  children _ := fun memory => (.error .notDirectory, memory)
  read path := fun memory =>
    (if path = file.path then .ok memory.database.document else .error .missing, memory)
  makeDirectory _ := fun memory => (.ok (), memory)
  touch _ := fun memory => (.ok (), memory)
  append _ _ := fun memory => (.error .inUse, memory)
  write path text := putDocument file path text
  replace path text := putDocument file path text

theorem replace_disk (db : Database) (memory : MemoryWorld ω) :
    ((disk file).replace file.path db.document).run.run memory =
      (.ok (), { memory with database := db, saved := db :: memory.saved }) := by
  unfold disk putDocument
  dsimp only
  rw [Database.ofDocument?_document]
  exact if_pos ⟨rfl, rfl⟩

theorem putDocument_cases (file : StoreFile) (path text : String) (memory : MemoryWorld ω) :
    (exists db : Database, db.document = text ∧ (putDocument file path text).run.run memory =
        (.ok (), { memory with database := db, saved := db :: memory.saved })) ∨
      (putDocument file path text).run.run memory = (.error .inUse, memory) := by
  show (exists db : Database, db.document = text ∧ putDocument file path text memory = _) ∨
    putDocument file path text memory = _
  unfold putDocument
  split
  · rename_i db _
    split
    · rename_i h
      exact Or.inl ⟨db, h.2, rfl⟩
    · exact Or.inr rfl
  · exact Or.inr rfl

theorem makeLineage_disk {paths : List String} (hne : paths ≠ []) (memory : MemoryWorld ω) :
    ((disk file).makeLineage paths).run.run memory = (.ok (), memory) := by
  cases paths with
  | nil => exact absurd rfl hne
  | cons path above =>
      unfold Disk.makeLineage
      split
      · rfl
      · rfl

theorem lineage_ne_nil (path : String) : DiskPath.lineage path ≠ [] := by
  unfold DiskPath.lineage
  cases path.length with
  | zero => exact List.cons_ne_nil _ _
  | succ fuel =>
      unfold DiskPath.lineage.go
      split
      · exact List.cons_ne_nil _ _
      · exact List.cons_ne_nil _ _

theorem openLock_disk (memory : MemoryWorld ω) :
    (file.openLock (disk file)).on memory = (.ok (), memory) := by
  unfold StoreFile.openLock
  split
  · rename_i parent _
    have hmade : (Attempt.within ("failed to create " ++ parent)
        (Attempt.ofFiling ((disk file).makeDirectories parent))).on memory =
          (.ok (), memory) := by
      apply Attempt.on_within_of_ok
      exact View.run_bind_of_eq (makeLineage_disk (lineage_ne_nil parent) memory)
    rw [Attempt.on_bind_of_ok hmade]
    rfl
  · rfl

theorem of_putDocument_ok {path text : String} {memory after : MemoryWorld ω}
    (h : (putDocument file path text).run.run memory = (.ok (), after)) :
    exists db : Database, db.document = text ∧
      after = { memory with database := db, saved := db :: memory.saved } := by
  rcases putDocument_cases file path text memory with ⟨db, htext, hput⟩ | hput
  · exact ⟨db, htext, (congrArg Prod.snd (h.symm.trans hput))⟩
  · exact nomatch congrArg Prod.fst (h.symm.trans hput)

theorem of_putDocument_error {path text : String} {memory after : MemoryWorld ω}
    {failure : DiskError}
    (h : (putDocument file path text).run.run memory = (.error failure, after)) :
    after = memory := by
  rcases putDocument_cases file path text memory with ⟨db, _, hput⟩ | hput
  · exact nomatch congrArg Prod.fst (h.symm.trans hput)
  · exact congrArg Prod.snd (h.symm.trans hput)

theorem disk_documents : file.Documents (disk file) (view : View (MemoryWorld ω) ω) where
  kept := {
    inspect := fun _ _ => rfl
    read := fun _ _ => rfl
    makeDirectory := fun _ _ => rfl
    touch := fun _ => rfl
    found := fun memory _ _ => ⟨_, if_pos rfl⟩
    missing := fun _ hnone => nomatch hnone
    text := by
      intro memory text htext
      rw [<- String.toByteArray_inj.mp (Option.some.inj htext)]
      exact if_pos rfl
    replaced := by
      intro text memory after h
      rcases of_putDocument_ok h with ⟨db, rfl, rfl⟩
      rfl }
  spared := ⟨fun _ _ => rfl, fun _ _ => rfl, fun _ _ => rfl, fun _ => rfl⟩
  replaced := by
    intro db memory after h
    have hafter := congrArg Prod.snd (h.symm.trans (replace_disk db memory))
    rw [show after = _ from hafter]
    exact ⟨rfl, rfl⟩
  refused := by
    intro text memory after failure h
    rw [of_putDocument_error h]
    exact View.Same.refl _

theorem pathExists_disk (memory : MemoryWorld ω) :
    (Attempt.effect ((disk file).pathExists file.path)).on memory = (.ok true, memory) := by
  have hfound : ((disk file).inspect file.path).run.run memory =
      (.ok (.file memory.database.document.utf8ByteSize), memory) :=
    congrArg (fun found => (found, memory)) (if_pos rfl)
  rw [Attempt.on_effect]
  unfold Disk.pathExists
  rw [View.run_bind_of_eq hfound]
  rfl

theorem read_disk (context : String) (memory : MemoryWorld ω) :
    (Attempt.within context (Attempt.ofFiling ((disk file).read file.path))).on memory =
      (.ok memory.database.document, memory) := by
  have hread : ((disk file).read file.path).run.run memory =
      (.ok memory.database.document, memory) :=
    congrArg (fun text => (text, memory)) (if_pos rfl)
  apply Attempt.on_within_of_ok
  exact View.run_bind_of_eq hread

/-- Over that disk the vault in the store file is the vault in memory. -/
theorem vault_disk (file : StoreFile) :
    file.vault (disk file : Disk (StateM (MemoryWorld ω))) = vault := by
  have hload : file.load (disk file : Disk (StateM (MemoryWorld ω))) = vault.load := by
    funext memory
    change (file.load (disk file)).on memory = vault.load.on memory
    unfold StoreFile.load
    rw [Attempt.on_bind_of_ok (openLock_disk memory),
      Attempt.on_bind_of_ok (pathExists_disk memory)]
    simp only [if_true]
    rw [Attempt.on_bind_of_ok (read_disk _ memory), Database.ofDocument?_document]
    rfl
  have hsave : file.save (disk file : Disk (StateM (MemoryWorld ω))) = vault.save := by
    funext db memory
    exact StoreFile.on_save db (replace_disk db memory)
  unfold StoreFile.vault
  rw [hload, hsave]

/-- What is assumed of the vault of a check is true of the vault in a store file. -/
theorem vault_disk_holds :
    (file.vault (disk file)).Holds (view : View (MemoryWorld ω) ω) :=
  disk_documents.holds

theorem vault_disk_reliable :
    (file.vault (disk file : Disk (StateM (MemoryWorld ω)))).Reliable := by
  apply disk_documents.reliable
  · intro memory fault hopen
    rw [openLock_disk memory] at hopen
    cases hopen
  · intro db memory failure hreplace
    rw [replace_disk db memory] at hreplace
    cases hreplace

theorem vault_disk_steady :
    (file.vault (disk file : Disk (StateM (MemoryWorld ω)))).Steady :=
  vault_disk_reliable.steady

end MemoryWorld
end Whereabouts
