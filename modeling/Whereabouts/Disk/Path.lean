import Whereabouts.Text.Pieces

/-!
# Paths on disk

Paths are kept as they are written.  Empty parts, and `.` anywhere but at the
start, do not count as parts.
-/

namespace Whereabouts
namespace DiskPath

def isAbsolute (path : String) : Bool :=
  path.toList.head? == some '/'

/-- The parts of a path, dots included. -/
def parts (path : String) : List String :=
  ((Text.pieces '/' path.toList).filter fun part => !part.isEmpty).map String.ofList

/-- A path continued by another one, which replaces it when it is absolute. -/
def join (base path : String) : String :=
  if isAbsolute path || base == "" then path
  else if base.toList.getLast? == some '/' then base ++ path
  else base ++ "/" ++ path

/-- A reversed path without the slashes and dots that name nothing at its end. -/
def trimTail : List Char -> List Char
  | '/' :: rest => if rest.isEmpty then ['/'] else trimTail rest
  | '.' :: '/' :: rest => if rest.isEmpty then ['/'] else trimTail rest
  | path => path

def parent? (path : String) : Option String :=
  match trimTail path.toList.reverse with
  | [] => none
  | ['/'] => none
  | tail =>
      some (String.ofList (trimTail (tail.dropWhile fun c => c != '/')).reverse)

/-- The last part of a path, when it is a name. -/
def fileName? (path : String) : Option String :=
  let name := (trimTail path.toList.reverse).takeWhile fun c => c != '/'
  if name.isEmpty || name = ['.'] || name = ['.', '.'] then none
  else some (String.ofList name.reverse)

def withFileName (path name : String) : String :=
  match fileName? path, parent? path with
  | some _, some parent => join parent name
  | _, _ => join path name

/-- What follows the last dot of a file name that does not start with it. -/
def extension? (path : String) : Option String :=
  match fileName? path with
  | none => none
  | some name =>
      let chars := name.toList.reverse
      match chars.dropWhile fun c => c != '.' with
      | [] => none
      | [_] => none
      | _ => some (String.ofList (chars.takeWhile fun c => c != '.').reverse)

/-- A path and every path above it, from the inside out. -/
def lineage (path : String) : List String :=
  go path.length path
where
  go : Nat -> String -> List String
    | 0, path => [path]
    | fuel + 1, path =>
        match parent? path with
        | some parent => path :: go fuel parent
        | none => [path]

end DiskPath
end Whereabouts
