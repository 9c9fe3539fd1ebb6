import Whereabouts.Disk.Basic
import Whereabouts.Json.Reader
import Whereabouts.Storage.Basic
import Whereabouts.Text.Blank

/-!
# A directory as storage

Remote storage as a directory on disk with one directory for each system.  Paths
cannot leave the directory of their system.  A file beside the systems names their
external projects.
-/

namespace Whereabouts

/-- A directory with one directory for each system. -/
structure DirectoryStorage (m : Type -> Type) where
  disk : Disk m
  root : String

namespace DirectoryStorage

/-- The names that a path leads through, unless one of them leads up. -/
def names? (path : String) : Option (List String) :=
  let parts := (DiskPath.parts path).filter fun part => part != "."
  if parts.contains ".." then none else some parts

def pathOf (names : List String) : String :=
  Text.joinWith "/" names

variable {m : Type -> Type}

def systemRoot (store : DirectoryStorage m) (system : String) : String :=
  DiskPath.join store.root system

/-- The place on disk of names below the root of a system. -/
def place (store : DirectoryStorage m) (system : String) (names : List String) : String :=
  names.foldl DiskPath.join (store.systemRoot system)

variable [Monad m]

def filing {α : Type} (operation : Filing m α) : Remote m α :=
  ExceptT.mk do
    match <- operation.run with
    | .ok value => return .ok value
    | .error failure => return .error (.io failure.message)

def entry (store : DirectoryStorage m) (system : String) (names : List String) :
    Remote m Entry := do
  let full := store.place system names
  let kind <- filing (store.disk.inspect full)
  let name := (DiskPath.fileName? full).getD ""
  match kind with
  | .file size =>
      return { name, path := pathOf names, kind := .file, size := some (UInt64.ofNat size) }
  | .directory => return { name, path := pathOf names, kind := .directory, size := none }

/-- The names of an existing place that a path leads to, with its kind. -/
def find (store : DirectoryStorage m) (system path : String) :
    Remote m (List String × FileKind) := do
  match names? path with
  | none => throw (.notListable system path)
  | some names =>
      match <- ExceptT.lift (store.disk.inspect (store.place system names)).run with
      | .ok kind => return (names, kind)
      | .error _ => throw (.notListable system path)

/-- The entries of a directory in the order of their names; a file is listed as
itself. -/
def list (store : DirectoryStorage m) (system path : String) : Remote m (List Entry) := do
  let (names, kind) <- store.find system path
  match kind with
  | .file _ => return [<- store.entry system names]
  | .directory =>
      let children <- filing (store.disk.children (store.place system names))
      children.mapM fun child => store.entry system (names ++ [child])

def stat (store : DirectoryStorage m) (system path : String) : Remote m Entry := do
  let (names, _) <- store.find system path
  store.entry system names

/-- The external projects that a document gives to systems. -/
def projectsOf? (text : String) : Option (List (String × String)) :=
  (Json.parse? text.toList).bind (Json.table? (fun name => some name.text) Json.str?)

def externalId (store : DirectoryStorage m) (system : String) : Remote m (Option String) := do
  let file := DiskPath.join store.root "projects.json"
  if <- ExceptT.lift (store.disk.pathExists file) then
    let text <- filing (store.disk.read file)
    match projectsOf? text with
    | some projects => return (projects.reverse.lookup system)
    | none => throw (.decode (file ++ ": it is no table of texts"))
  else
    return none

def storage (store : DirectoryStorage m) : Storage m where
  list := store.list
  stat := store.stat
  externalId := store.externalId

end DirectoryStorage
end Whereabouts
