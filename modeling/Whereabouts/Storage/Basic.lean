import Whereabouts.Json.Fields
import Whereabouts.Text.Decimal

/-!
# Remote storage

A hierarchical store of files on named systems.  A check needs three calls:
list a directory, describe a file, and name the external project of a system.
-/

namespace Whereabouts

inductive EntryKind where
  | file
  | directory
  deriving DecidableEq, Inhabited

/-- A file or directory as remote storage describes it.  The path is relative to
the system's root and may or may not start with a slash. -/
structure Entry where
  name : String
  path : String
  kind : EntryKind
  size : Option UInt64
  deriving DecidableEq, Inhabited

namespace EntryKind

def text : EntryKind -> String
  | file => "file"
  | directory => "dir"

def named : List (String × EntryKind) :=
  [file, directory].map fun kind => (kind.text, kind)

end EntryKind

namespace Entry

def isDirectory (entry : Entry) : Bool :=
  entry.kind == .directory

def toJson (entry : Entry) : Json :=
  .obj
    [("name", .str entry.name),
      ("path", .str entry.path),
      ("kind", .str entry.kind.text),
      ("size", Json.ofOption Json.ofUInt64 entry.size)]

def ofJson? (value : Json) : Option Entry := do
  let fields <- value.fields? ["name", "path", "kind", "size"]
  let name <- fields.required? "name" Json.str?
  let path <- fields.required? "path" Json.str?
  let kind <- fields.required? "kind" (Json.case? Json.isNull EntryKind.named)
  let size <- fields.optional? "size" Json.uint64?
  return { name, path, kind, size }

end Entry

/-- Why a call of remote storage failed.  A `transport` failure is `retryable`
when the request was sent and no response came. -/
inductive StorageError where
  | notListable (system path : String)
  | status (system path : String) (code : Nat)
  | projectLookup (system reason : String)
  | transport (retryable : Bool) (reason : String)
  | decode (reason : String)
  | io (reason : String)
  deriving DecidableEq, Inhabited

namespace StorageError

def message : StorageError -> String
  | notListable system path => system ++ ":" ++ path ++ " is not listable"
  | status system path code =>
      system ++ ":" ++ path ++ " request failed with status " ++ Text.natText code
  | projectLookup system reason => "project lookup for " ++ system ++ " failed: " ++ reason
  | transport _ reason => "storage transport error: " ++ reason
  | decode reason => "unexpected storage response: " ++ reason
  | io reason => "storage io error: " ++ reason

/-- The wording of a failure together with that of its cause, where it has one. -/
def chainMessage : StorageError -> String
  | io reason => "storage io error: " ++ reason ++ ": " ++ reason
  | other => other.message

/-- Whether another attempt may help. -/
def isTransient : StorageError -> Bool
  | status _ _ code => 500 ≤ code
  | transport retryable _ => retryable
  | _ => false

end StorageError

/-- A call of remote storage, which may fail. -/
abbrev Remote (m : Type -> Type) (α : Type) := ExceptT StorageError m α

/-- Remote storage: what answers the three calls. -/
structure Storage (m : Type -> Type) where
  /-- The entries of a directory; a file is listed as itself. -/
  list : (system path : String) -> Remote m (List Entry)
  /-- The description of one file or directory. -/
  stat : (system path : String) -> Remote m Entry
  /-- The external project of a project's system, when it is linked to one. -/
  externalId : (system : String) -> Remote m (Option String)

end Whereabouts
