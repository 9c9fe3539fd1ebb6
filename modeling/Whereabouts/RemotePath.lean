import Whereabouts.Text.Digit
import Whereabouts.Text.Pieces
import Whereabouts.Text.Blank

/-!
# Remote paths

A path on a remote system is a text cut into segments at every slash.  Its file
name is the last segment, and one of its segments may name a published project.
-/

namespace Whereabouts
namespace RemotePath

def isSlash (c : Char) : Bool :=
  c = '/'

/-- The segments of a path, empty ones included. -/
def segments (path : String) : List (List Char) :=
  Text.pieces '/' path.toList

/-- The file name of a path, unless it is empty or ends with a slash. -/
def fileName? (path : String) : Option String :=
  match (segments path).getLast? with
  | some name => if name.isEmpty then none else some (String.ofList name)
  | none => none

def relative (path : String) : String :=
  String.ofList (Text.dropStart isSlash path.toList)

def absolute (path : String) : String :=
  String.ofList ('/' :: Text.dropStart isSlash path.toList)

/-- The published project that a text starts with: `PRJ-` and decimal digits of
any script, at least one, up to a slash or the end. -/
def projectHere? (s : List Char) : Option (List Char) :=
  match Text.after? ['P', 'R', 'J', '-'] s with
  | none => none
  | some rest =>
      let number := rest.takeWhile Text.isDecimalDigit
      let after := rest.drop number.length
      if number.isEmpty then none
      else if after.isEmpty || after.head? = some '/' then some ('P' :: 'R' :: 'J' :: '-' :: number)
      else none

/-- The first published project that stands behind a slash. -/
def projectBehind? : List Char -> Option (List Char)
  | [] => none
  | c :: rest =>
      match if c = '/' then projectHere? rest else none with
      | some project => some project
      | none => projectBehind? rest

def publishedProject? (path : String) : Option String :=
  match projectHere? path.toList with
  | some project => some (String.ofList project)
  | none => (projectBehind? path.toList).map String.ofList

end RemotePath
end Whereabouts
