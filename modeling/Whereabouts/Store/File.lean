import Whereabouts.Store.Vault

/-!
# Store files

A vault in one JSON document on disk.  Beside it lies a lock file, which every
access makes where it is missing, together with its directory.  A missing or blank
document stands for a new database, and one that cannot be read is never written
over.
-/

namespace Whereabouts

/-- Where a store file and its lock file are. -/
structure StoreFile where
  path : String
  lockPath : String
  deriving DecidableEq, Inhabited

namespace StoreFile

def ofPath (path : String) : StoreFile where
  path := path
  lockPath :=
    DiskPath.withFileName path ((DiskPath.fileName? path).getD "store.json" ++ ".lock")

variable {m : Type -> Type} [Monad m]

/-- Makes the lock file and its directory. -/
def openLock (file : StoreFile) (disk : Disk m) : Attempt m Unit := do
  match DiskPath.parent? file.lockPath with
  | some parent =>
      Attempt.within ("failed to create " ++ parent)
        (Attempt.ofFiling (disk.makeDirectories parent))
  | none => return ()
  Attempt.within ("failed to open " ++ file.lockPath)
    (Attempt.ofFiling (disk.touch file.lockPath))

def load (file : StoreFile) (disk : Disk m) : Attempt m Database := do
  file.openLock disk
  if <- Attempt.effect (disk.pathExists file.path) then
    let text <- Attempt.within ("failed to read " ++ file.path)
      (Attempt.ofFiling (disk.read file.path))
    match Database.ofDocument? text with
    | some db => return db
    | none => throw (.corruptStore file.path "it is no database document")
  else
    return .fresh

/-- Writes the document anew. -/
def save (file : StoreFile) (disk : Disk m) (db : Database) : Attempt m Unit :=
  ExceptT.mk do
    match <- (disk.replace file.path db.document).run with
    | .ok () => return .ok ()
    | .error failure =>
        return .error (.within ("failed to write " ++ file.path) (.notSaved failure))

def vault (file : StoreFile) (disk : Disk m) : Vault m where
  load := file.load disk
  save := file.save disk

end StoreFile
end Whereabouts
