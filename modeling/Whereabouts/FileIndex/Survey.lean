import Whereabouts.FileIndex.Basic
import Whereabouts.Settings.Basic
import Whereabouts.Storage.Basic

/-!
# Surveys

Building the index of a directory by listing it and everything below it, depth
first.  Trash is left out, and a directory that cannot be listed is skipped while
its siblings are kept.
-/

namespace Whereabouts

/-- What a survey works with: the storage, the rules, and the number of levels
that it may go down below the directory it starts at. -/
structure Surveyor (m : Type -> Type) where
  storage : Storage m
  engine : EngineSettings
  depth : Nat

/-- What a check indexes: the published copy of a system under the id of the external
project that it is linked to, or an owning system as a whole. -/
inductive IndexTarget where
  | published (system id : String)
  | owner (system : String)
  deriving DecidableEq, Inhabited

def IndexTarget.system (engine : EngineSettings) : IndexTarget -> String
  | published _ _ => engine.publishedSystem
  | owner system => system

namespace FileIndex

def countDirectory (index : FileIndex) : FileIndex :=
  { index with stats := { index.stats with directories := index.stats.directories + 1 } }

def countTrash (index : FileIndex) : FileIndex :=
  { index with stats := { index.stats with skippedTrash := index.stats.skippedTrash + 1 } }

def countSkipped (index : FileIndex) : FileIndex :=
  { index with
    stats := { index.stats with skippedSubtrees := index.stats.skippedSubtrees + 1 } }

/-- The index with one more file, under its file name or else the name of its
entry. -/
def insertFile (index : FileIndex) (entry : Entry) : FileIndex :=
  let filed := index.insert ((RemotePath.fileName? entry.path).getD entry.name) entry.path
  { filed with stats := { filed.stats with files := filed.stats.files + 1 } }

end FileIndex

namespace Surveyor

variable {m : Type -> Type} [Monad m]

/-- The index with one entry of a listing added; `explore` indexes the listing of
a directory, where the survey may go down further. -/
def visit (surveyor : Surveyor m) (system : String)
    (explore : Option (List Entry -> m FileIndex)) (index : FileIndex) (entry : Entry) :
    m FileIndex :=
  if !entry.isDirectory then
    pure (index.insertFile entry)
  else if surveyor.engine.isTrash entry.path then
    pure index.countTrash
  else
    match explore with
    | none => pure index.countSkipped
    | some explore => do
        match <- (surveyor.storage.list system entry.path).run with
        | .ok children => return index.merge (<- explore children)
        | .error _ => return index.countSkipped

/-- The index of a listing and of everything in the next `depth` levels. -/
def indexListing (surveyor : Surveyor m) (system : String) :
    Nat -> List Entry -> m FileIndex
  | 0, entries =>
      entries.foldlM (surveyor.visit system none) (FileIndex.empty system).countDirectory
  | depth + 1, entries =>
      entries.foldlM (surveyor.visit system (some (surveyor.indexListing system depth)))
        (FileIndex.empty system).countDirectory

/-- The index of a directory, empty when it cannot be listed. -/
def index (surveyor : Surveyor m) (system root : String) : m FileIndex := do
  match <- (surveyor.storage.list system root).run with
  | .ok entries => surveyor.indexListing system surveyor.depth entries
  | .error _ => return FileIndex.empty system

def build (surveyor : Surveyor m) : IndexTarget -> m FileIndex
  | .published _ id =>
      surveyor.index surveyor.engine.publishedSystem (surveyor.engine.publishedRoot id)
  | .owner system => surveyor.index system "/"

end Surveyor
end Whereabouts
