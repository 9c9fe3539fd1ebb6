import Whereabouts.Toml.Basic
import Whereabouts.Toml.Scalar

/-!
# Reading TOML

The values and lines of a document of TOML 1.0.  Values may be nested at most 79
deep, and so may keys.
-/

namespace Whereabouts
namespace Toml

/-- The deepest nesting of values, and the longest path of keys. -/
def deepest : Nat :=
  79

/-- The text from the end of its first line on, where only blanks and a comment
may stand before it. -/
def endOfLine? (s : List Char) : Option (List Char) :=
  let rest := match skipBlanks s with
    | '#' :: comment => comment.dropWhile isPlain
    | start => start
  match rest with
  | [] => some []
  | _ => lineBreak? rest

def skipLines : Nat -> List Char -> List Char
  | 0, s => s
  | fuel + 1, s =>
      match skipBlanks s with
      | '#' :: comment =>
          match lineBreak? (comment.dropWhile isPlain) with
          | some rest => skipLines fuel rest
          | none => '#' :: comment
      | start =>
          match lineBreak? start with
          | some rest => skipLines fuel rest
          | none => start

mutual

/-- A value that the text starts with, where `depth` more arrays and inline tables
may be opened. -/
def readValue : Nat -> Nat -> List Char -> Option (Json × List Char)
  | 0, _, _ => none
  | fuel + 1, depth, s =>
      match s with
      | 't' :: 'r' :: 'u' :: 'e' :: rest => some (.bool true, rest)
      | 'f' :: 'a' :: 'l' :: 's' :: 'e' :: rest => some (.bool false, rest)
      | '[' :: rest =>
          match depth with
          | 0 => none
          | depth + 1 => readItems fuel depth [] rest
      | '\x7b' :: rest =>
          match depth with
          | 0 => none
          | depth + 1 =>
              match skipBlanks rest with
              | '\x7d' :: more => some (.obj [], more)
              | start => readMembers fuel depth [] start
      | c :: _ =>
          if c = '"' || c = '\'' then
            (readString s).map fun read => (.str (String.ofList read.1), read.2)
          else if startsDate s then
            readDate s
          else
            readDecimal s
      | [] => none

def readItems : Nat -> Nat -> List Json -> List Char -> Option (Json × List Char)
  | 0, _, _, _ => none
  | fuel + 1, depth, acc, s =>
      match skipLines (s.length + 1) s with
      | ']' :: rest => some (.arr acc.reverse, rest)
      | start =>
          match readValue fuel depth start with
          | none => none
          | some (item, rest) =>
              match skipLines (rest.length + 1) rest with
              | ',' :: more => readItems fuel depth (item :: acc) more
              | ']' :: more => some (.arr (item :: acc).reverse, more)
              | _ => none

def readMembers : Nat -> Nat -> Members -> List Char -> Option (Json × List Char)
  | 0, _, _, _ => none
  | fuel + 1, depth, acc, s =>
      match readPath deepest s with
      | some (path, '=' :: rest) =>
          match readValue fuel depth (skipBlanks rest), path.getLast? with
          | some (value, more), some key =>
              match setKey acc path.dropLast key value with
              | none => none
              | some members =>
                  match skipBlanks more with
                  | ',' :: after => readMembers fuel depth members after
                  | '\x7d' :: after => some (.obj (membersJson members), after)
                  | _ => none
          | _, _ => none
      | _ => none

end

def readLine (draft : Draft) (s : List Char) : Option (Draft × List Char) :=
  match skipBlanks s with
  | '[' :: '[' :: rest =>
      match readPath deepest rest with
      | some (path, ']' :: ']' :: more) =>
          match draft.openArray? path, endOfLine? more with
          | some next, some after => some (next, after)
          | _, _ => none
      | _ => none
  | '[' :: rest =>
      match readPath deepest rest with
      | some (path, ']' :: more) =>
          match draft.openTable? path, endOfLine? more with
          | some next, some after => some (next, after)
          | _, _ => none
      | _ => none
  | start =>
      if start.isEmpty || start.head? = some '#' || (lineBreak? start).isSome then
        (endOfLine? start).map (draft, ·)
      else
        match readPath deepest start with
        | some (path, '=' :: rest) =>
            match readValue (rest.length + 1) deepest (skipBlanks rest), path.getLast? with
            | some (value, more), some key =>
                match draft.setKey? path.dropLast key value, endOfLine? more with
                | some next, some after => some (next, after)
                | _, _ => none
            | _, _ => none
        | _ => none

def readLines : Nat -> Draft -> List Char -> Option Members
  | 0, _, _ => none
  | _ + 1, draft, [] => draft.finished?
  | fuel + 1, draft, s =>
      match readLine draft s with
      | some (next, rest) => readLines fuel next rest
      | none => none

/-- The table that a document denotes, as an object. -/
def parse? (s : List Char) : Option Json :=
  let lines := match s with
    | '\uFEFF' :: rest => rest
    | _ => s
  (readLines (lines.length + 1) .start lines).map fun members => .obj (membersJson members)

end Toml
end Whereabouts
