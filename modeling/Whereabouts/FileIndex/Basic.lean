import Whereabouts.OrderedMap
import Whereabouts.Json.Fields
import Whereabouts.RemotePath

/-!
# File indices

The files below one directory of a remote system, under their file names.  The
paths of one name keep the order in which they were met, and the first of them is
the one that a name resolves to.
-/

namespace Whereabouts

structure IndexCounts where
  directories : Nat
  files : Nat
  skippedSubtrees : Nat
  skippedTrash : Nat
  deriving DecidableEq, Inhabited

/-- The paths of a system's files under their file names. -/
structure FileIndex where
  system : String
  entries : OrderedMap String (List String)
  stats : IndexCounts
  deriving DecidableEq, Inhabited

namespace IndexCounts

def zero : IndexCounts where
  directories := 0
  files := 0
  skippedSubtrees := 0
  skippedTrash := 0

def add (a b : IndexCounts) : IndexCounts where
  directories := a.directories + b.directories
  files := a.files + b.files
  skippedSubtrees := a.skippedSubtrees + b.skippedSubtrees
  skippedTrash := a.skippedTrash + b.skippedTrash

def toJson (stats : IndexCounts) : Json :=
  .obj
    [("directories", .int stats.directories),
      ("files", .int stats.files),
      ("skipped_subtrees", .int stats.skippedSubtrees),
      ("skipped_trash", .int stats.skippedTrash)]

end IndexCounts

namespace FileIndex

def empty (system : String) : FileIndex where
  system := system
  entries := .empty
  stats := .zero

def extend (entries : OrderedMap String (List String)) (name : String)
    (paths : List String) : OrderedMap String (List String) :=
  entries.alter name fun old => old.getD [] ++ paths

/-- The index with one more path under a name, without the slashes in front. -/
def insert (index : FileIndex) (name path : String) : FileIndex :=
  { index with entries := extend index.entries name [RemotePath.relative path] }

def merge (index other : FileIndex) : FileIndex where
  system := index.system
  entries := other.entries.entries.foldl
    (fun entries entry => extend entries entry.1 entry.2) index.entries
  stats := index.stats.add other.stats

def get? (index : FileIndex) (name : String) : Option (List String) :=
  index.entries.get? name

def size (index : FileIndex) : Nat :=
  index.entries.size

def isEmpty (index : FileIndex) : Bool :=
  index.entries.isEmpty

/-- The names with their paths, in the order of the names. -/
def toList (index : FileIndex) : List (String × List String) :=
  index.entries.entries

/-- The first path under the file name of a path. -/
def resolve? (index : FileIndex) (path : String) : Option String :=
  match RemotePath.fileName? path with
  | none => none
  | some name =>
      match index.get? name with
      | some (first :: _) => some first
      | _ => none

def toJson (index : FileIndex) : Json :=
  .obj
    [("system", .str index.system),
      ("entries", .obj (index.toList.map fun entry => (entry.1, .arr (entry.2.map .str)))),
      ("stats", index.stats.toJson)]

end FileIndex
end Whereabouts
