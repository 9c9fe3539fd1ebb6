import Whereabouts.Disk.Basic
import Whereabouts.Text.Quoted

/-!
# Mentioned variables

The names of variables that stand in source texts, and the list of allowed names
that is made from them.
-/

namespace Whereabouts
namespace Mentions

/-- What the name of every variable starts with. -/
def start : List Char :=
  ['L', 'O', 'C', 'S', 'Y', 'N', 'C', '_']

def isNameChar (c : Char) : Bool :=
  c.isUpper || c.isDigit || c = '_'

/-- The name of which `rest` follows the common start: it takes the longest run,
which is not empty and does not end with an underscore. -/
def name? (rest : List Char) : Option (List Char) :=
  let run := rest.takeWhile isNameChar
  match run.getLast? with
  | none => none
  | some last => if last = '_' then none else some (start ++ run)

/-- The names in a text, at most one for each place of the common start, where
`skip` characters belong to a place that has been found. -/
def namesFrom : (skip : Nat) -> List Char -> List (List Char)
  | _, [] => []
  | skip + 1, _ :: rest => namesFrom skip rest
  | 0, c :: rest =>
      match Text.after? start (c :: rest) with
      | none => namesFrom 0 rest
      | some after => (name? after).toList ++ namesFrom (start.length - 1) rest

def namesOf (text : String) : List String :=
  (namesFrom 0 text.toList).map String.ofList

/-- The list of allowed names as the text of a source file. -/
def allowlistText (names : List String) : String :=
  "pub const GENERATED_ENV_ALLOWLIST: &[&str] = &[\n"
    ++ String.join (names.map fun name => "    " ++ Text.quoted name ++ ",\n") ++ "];\n"

variable {m : Type -> Type} [Monad m]

/-- The source files below a directory, going down at most `depth` levels. -/
def filesBelow (disk : Disk m) : Nat -> String -> Filing m (List String)
  | 0, _ => return []
  | depth + 1, dir => do
      let names <- disk.children dir
      let found <- names.mapM fun name => do
        let path := DiskPath.join dir name
        if <- ExceptT.lift (disk.isDirectory path) then
          filesBelow disk depth path
        else if DiskPath.extension? path = some "rs" then
          return [path]
        else
          return []
      return found.flatten

/-- The source files below a directory, in the order of the parts of their
paths. -/
def sources (disk : Disk m) (depth : Nat) (dir : String) : Filing m (List String) := do
  let found <- filesBelow disk depth dir
  return found.mergeSort fun a b => (compare (DiskPath.parts a) (DiskPath.parts b)).isLE

def writeAllowlist (disk : Disk m) (path : String) (names : List String) : Filing m Unit :=
  disk.write path (allowlistText names)

end Mentions
end Whereabouts
