import Whereabouts.Proofs.Documents
import Whereabouts.Proofs.Surroundings
import Whereabouts.Store.File

/-!
# Store files

What was saved in a store file is loaded again, and nothing but a save changes the
file.  Of the disk it is only assumed what a file system promises: an operation on
another path leaves the bytes of the file alone, and a file is read as the text that
was written to it.
-/

namespace Whereabouts

variable {σ γ : Type}

/-!
## Disks with a store file
-/

/-- What the work around a store file leaves alone: looking, reading, making
directories and making the lock file. -/
structure StoreFile.Spared (file : StoreFile) (disk : Disk (StateM σ)) (told : σ -> γ) :
    Prop where
  inspect : forall path, Spares told (disk.inspect path).run
  read : forall path, Spares told (disk.read path).run
  makeDirectory : forall path, Spares told (disk.makeDirectory path).run
  touch : Spares told (disk.touch file.lockPath).run

/-- A disk with the bytes of a store file.  The file is found and read as what it is,
and it is replaced as a whole. -/
structure StoreFile.Kept (file : StoreFile) (disk : Disk (StateM σ))
    (content : σ -> Option ByteArray) : Prop extends file.Spared disk content where
  found : forall s bytes, content s = some bytes ->
    exists kind, ((disk.inspect file.path).run.run s).1 = .ok kind
  missing : forall s, content s = none ->
    exists failure, ((disk.inspect file.path).run.run s).1 = .error failure
  text : forall s text, content s = some text.toUTF8 ->
    ((disk.read file.path).run.run s).1 = .ok text
  replaced : forall text s after, (disk.replace file.path text).run.run s = (.ok (), after) ->
    content after = some text.toUTF8

/-!
## A directory in memory

Files under their names, with no directories among them.
-/

/-- The files of one directory. -/
abbrev Folder := OrderedMap String String

namespace Folder

def query {α : Type} (ask : Folder -> Except DiskError α) : Filing (StateM Folder) α :=
  fun folder => (ask folder, folder)

def change (edit : Folder -> Folder) : Filing (StateM Folder) Unit :=
  fun folder => (.ok (), edit folder)

def read (folder : Folder) (path : String) : Except DiskError String :=
  match folder.get? path with
  | some text => .ok text
  | none => .error .missing

def disk : Disk (StateM Folder) where
  inspect path := query fun folder => (folder.read path).map fun text => .file text.utf8ByteSize
  children _ := query fun _ => .error .notDirectory
  read path := query fun folder => folder.read path
  makeDirectory _ := query fun _ => .error (.other "no directories here")
  touch path := change fun folder => folder.alter path fun text => text.getD ""
  append path text := change fun folder => folder.alter path fun old => old.getD "" ++ text
  write path text := change fun folder => folder.insert path text
  replace path text := change fun folder => folder.insert path text

def bytes (path : String) (folder : Folder) : Option ByteArray :=
  (folder.get? path).map String.toUTF8

theorem spared {file : StoreFile} {path : String} (h : path ≠ file.lockPath) :
    file.Spared disk (bytes path) where
  inspect := fun _ _ => rfl
  read := fun _ _ => rfl
  makeDirectory := fun _ _ => rfl
  touch := by
    intro folder
    show (OrderedMap.get? (folder.insert file.lockPath _) path).map _ = _
    rw [OrderedMap.get?_insert_of_ne _ _ h]
    rfl

theorem kept {file : StoreFile} (h : file.path ≠ file.lockPath) :
    file.Kept disk (bytes file.path) where
  toSpared := spared h
  found := by
    intro folder bytes hbytes
    rcases Option.map_eq_some_iff.mp hbytes with ⟨text, htext, _⟩
    refine ⟨.file text.utf8ByteSize, ?_⟩
    show (folder.read file.path).map _ = _
    rw [read, htext]
    rfl
  missing := by
    intro folder hnone
    refine ⟨.missing, ?_⟩
    show (folder.read file.path).map _ = _
    rw [read, Option.map_eq_none_iff.mp hnone]
    rfl
  text := by
    intro folder text hbytes
    rcases Option.map_eq_some_iff.mp hbytes with ⟨found, hfound, heq⟩
    show folder.read file.path = _
    rw [read, hfound, String.toByteArray_inj.mp heq]
  replaced := by
    intro text folder after hreplace
    cases hreplace
    show (OrderedMap.get? (folder.insert file.path text) file.path).map _ = _
    rw [OrderedMap.get?_insert_self]
    rfl

def store : StoreFile :=
  .ofPath "store.json"

theorem store_kept : store.Kept disk (bytes store.path) :=
  kept (by decide)

/-- A database at the limits of what can be stored. -/
def extremes : Database :=
  { Database.fresh with
    schemaVersion := 4294967295
    pointClouds := .ofList
      [(Int64.minValue, { id := Int64.maxValue, projectId := -1, files :=
        [{ name := "a\"b\\c\n\u0001é😀.laz", size := some 18446744073709551615 }] })]
    runs := .ofList
      [(Int64.maxValue,
        { id := 0, projectId := Int64.minValue, taskId := none, totalItems := 0,
          itemsChecked := 18446744073709551615, itemsFailed := 1, completedAt := none,
          startedAt :=
            { year := 9999, month := 12, day := 31, hour := 23, minute := 59, second := 60,
              nanos := 999999999, dated := by decide, timed := by decide } })]
    sequences := .ofList [("", Int64.maxValue), ("\t", -1)] }

end Folder

namespace StoreFile

variable {file : StoreFile} {disk : Disk (StateM σ)} {told : σ -> γ}
  {content : σ -> Option ByteArray}

theorem Spared.pathExists (h : file.Spared disk told) (path : String) :
    Spares told (disk.pathExists path) := by
  apply Spares.bind (h.inspect path)
  intro result
  cases result with
  | error failure => exact Spares.pure _
  | ok kind => exact Spares.pure _

theorem Spared.isDirectory (h : file.Spared disk told) (path : String) :
    Spares told (disk.isDirectory path) := by
  apply Spares.bind (h.inspect path)
  intro result
  split
  · exact Spares.pure _
  · exact Spares.pure _

theorem Spared.pair {δ : Type} {other : σ -> δ} (h : file.Spared disk told)
    (hother : file.Spared disk other) : file.Spared disk fun s => (told s, other s) where
  inspect := fun path s => Prod.ext (h.inspect path s) (hother.inspect path s)
  read := fun path s => Prod.ext (h.read path s) (hother.read path s)
  makeDirectory := fun path s => Prod.ext (h.makeDirectory path s) (hother.makeDirectory path s)
  touch := fun s => Prod.ext (h.touch s) (hother.touch s)

theorem Spared.orThere (h : file.Spared disk told) (path : String) (failure : DiskError) :
    Spares told (do
      if <- ExceptT.lift (disk.isDirectory path) then return () else throw failure :
        Filing (StateM σ) Unit).run := by
  apply Spares.except_bind (Spares.lift (h.isDirectory path))
  intro there
  cases there with
  | false => exact Spares.pure _
  | true => exact Spares.pure _

theorem Spared.makeLineage (h : file.Spared disk told) (paths : List String) :
    Spares told (disk.makeLineage paths).run := by
  induction paths with
  | nil => exact Spares.pure _
  | cons path above ih =>
      unfold Disk.makeLineage
      split
      · exact Spares.pure _
      · apply Spares.except_bind (Spares.lift (h.makeDirectory path))
        intro made
        split
        · exact Spares.pure _
        · apply Spares.except_bind ih
          intro _
          apply Spares.except_bind (Spares.lift (h.makeDirectory path))
          intro again
          cases again with
          | ok _ => exact Spares.pure _
          | error failure => exact h.orThere path failure
        · exact h.orThere path _

theorem Spared.openLock (h : file.Spared disk told) :
    Spares told (file.openLock disk).run := by
  unfold StoreFile.openLock
  split
  · apply Spares.except_bind
    · exact ((h.makeLineage _).ofFiling).within _
    · intro _
      exact (h.touch.ofFiling).within _
  · exact Spares.pure _

/-- Loading never changes the file, whatever it holds. -/
theorem Spared.load (h : file.Spared disk told) : Spares told (file.load disk).run := by
  apply Spares.except_bind h.openLock
  intro _
  apply Spares.except_bind (Spares.lift (h.pathExists file.path))
  intro there
  cases there with
  | false => exact Spares.pure _
  | true =>
      apply Spares.except_bind (((h.read file.path).ofFiling).within _)
      intro text
      split
      · exact Spares.pure _
      · exact Spares.pure _

/-!
## Loading and saving
-/

theorem Kept.pathExists_eq (h : file.Kept disk content) (s : σ) :
    ((disk.pathExists file.path).run s).1 = (content s).isSome := by
  unfold Disk.pathExists
  rcases hinspect : (disk.inspect file.path).run.run s with ⟨result, after⟩
  rw [View.run_bind_of_eq hinspect]
  cases hcontent : content s with
  | none =>
      rcases h.missing s hcontent with ⟨failure, hfailure⟩
      rw [hinspect] at hfailure
      cases hfailure
      rfl
  | some bytes =>
      rcases h.found s bytes hcontent with ⟨kind, hkind⟩
      rw [hinspect] at hkind
      cases hkind
      rfl

/-- What the lock lets through is decided by the text of the file. -/
theorem Kept.load_text (h : file.Kept disk content) {s opened : σ} {text : String}
    (hopen : (file.openLock disk).on s = (.ok (), opened))
    (htext : content s = some text.toUTF8) :
    ((file.load disk).on s).1 =
      (Database.ofDocument? text).elim
        (.error (.corruptStore file.path "it is no database document")) .ok := by
  have hopened := (h.openLock.of_on hopen).trans htext
  have hthere := h.pathExists_eq opened
  rw [hopened] at hthere
  have hlooked := (h.pathExists file.path opened).trans hopened
  rcases hexists : (disk.pathExists file.path).run opened with ⟨there, looked⟩
  rw [hexists] at hthere hlooked
  cases hthere
  have hread := h.text looked text hlooked
  rcases hfiling : (disk.read file.path).run.run looked with ⟨result, after⟩
  rw [hfiling] at hread
  cases hread
  have htext : (Attempt.within ("failed to read " ++ file.path)
      (Attempt.ofFiling (disk.read file.path))).on looked = (.ok text, after) := by
    apply Attempt.on_within_of_ok
    exact View.run_bind_of_eq hfiling
  unfold StoreFile.load
  rw [Attempt.on_bind_of_ok hopen,
    Attempt.on_bind_of_ok (show (Attempt.effect (disk.pathExists file.path)).on opened =
      (.ok true, looked) from by rw [Attempt.on_effect, hexists])]
  simp only [if_true]
  rw [Attempt.on_bind_of_ok htext]
  cases Database.ofDocument? text with
  | none => rfl
  | some db => rfl

theorem Kept.of_save (h : file.Kept disk content) {db : Database} {s after : σ}
    (hsave : (file.save disk db).on s = (.ok (), after)) :
    content after = some db.document.toUTF8 := by
  rcases hreplace : (disk.replace file.path db.document).run.run s with ⟨result, replaced⟩
  have hon : (file.save disk db).on s = _ := View.run_bind_of_eq hreplace
  rw [hsave] at hon
  cases result with
  | error failure => cases hon
  | ok _ =>
      cases hon
      exact h.replaced db.document s after hreplace

/-- The document of a database stands for that database.  A save that succeeds leaves
it in the file, byte for byte, and whoever can open the lock then loads the database
that was saved. -/
theorem load_saved (h : file.Kept disk content) (db : Database) :
    Database.ofDocument? db.document = some db ∧
      forall s saved, ((file.vault disk).save db).on s = (.ok (), saved) ->
        content saved = some db.document.toUTF8 ∧
          forall opened, (file.openLock disk).on saved = (.ok (), opened) ->
            exists loaded, (file.vault disk).load.on saved = (.ok db, loaded) ∧
              content loaded = content saved := by
  have hdocument := Database.ofDocument?_document db
  refine ⟨hdocument, ?_⟩
  intro s saved hsave
  have hcontent := h.of_save hsave
  refine ⟨hcontent, ?_⟩
  intro opened hopen
  have hload := h.load_text hopen hcontent
  rw [hdocument] at hload
  rcases hon : (file.load disk).on saved with ⟨result, loaded⟩
  rw [hon] at hload
  cases hload
  exact ⟨loaded, hon, h.load.of_on hon⟩

theorem load_saved_extremes :
    exists saved loaded,
      ((Folder.store.vault Folder.disk).save Folder.extremes).on .empty = (.ok (), saved) ∧
        (Folder.store.vault Folder.disk).load.on saved = (.ok Folder.extremes, loaded) := by
  rcases (load_saved Folder.store_kept Folder.extremes).2 .empty _ rfl with ⟨_, hload⟩
  rcases hload _ rfl with ⟨loaded, hloaded, _⟩
  exact ⟨_, loaded, rfl, hloaded⟩

end StoreFile
end Whereabouts
