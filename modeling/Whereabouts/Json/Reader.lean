import Whereabouts.Json.Basic
import Whereabouts.Text.Decimal
import Whereabouts.Text.Hexadecimal

/-!
# Reading JSON

A reader of JSON documents over the remaining characters: every function
returns what it read and what is left.  Blanks are the four of the grammar.  The
nested part spends one unit of fuel for each value, element and member; a
document's own length is enough for all of it.
-/

namespace Whereabouts
namespace Json

def isBlank (c : Char) : Bool :=
  c = ' ' || c = '\n' || c = '\t' || c = '\r'

def skipBlanks (s : List Char) : List Char :=
  s.dropWhile isBlank

def readUnit : List Char -> Option (Nat × List Char)
  | a :: b :: c :: d :: rest => (Text.hexFrom? 0 [a, b, c, d]).map (·, rest)
  | _ => none

def simpleEscape : Char -> Option Char
  | '"' => some '"'
  | '\\' => some '\\'
  | '/' => some '/'
  | 'b' => some '\x08'
  | 'f' => some '\x0c'
  | 'n' => some '\n'
  | 'r' => some '\r'
  | 't' => some '\t'
  | _ => none

/-- What an escape after `\u` denotes: a character, or half of a pair alone. -/
inductive Escape where
  | char (c : Char)
  | half

/-- The escape after `\u`, with the second half of a surrogate pair. -/
def readEscape (s : List Char) : Option (Escape × List Char) :=
  match readUnit s with
  | none => none
  | some (unit, rest) =>
      if unit < 0xD800 || 0xDFFF < unit then
        some (.char (Char.ofNat unit), rest)
      else if 0xDC00 ≤ unit then
        some (.half, rest)
      else
        match rest with
        | '\\' :: 'u' :: more =>
            match readUnit more with
            | none => none
            | some (low, after) =>
                if 0xDC00 ≤ low && low ≤ 0xDFFF then
                  let n := 0x10000 + (unit - 0xD800) * 0x400 + (low - 0xDC00)
                  some (.char (Char.ofNat n), after)
                else
                  some (.half, rest)
        | _ => some (.half, rest)

/-- The rest of a string after its opening quote, as reversed characters; `none`
inside stands for a string that denotes no text. -/
def readString : Nat -> Option (List Char) -> List Char ->
    Option (Option (List Char) × List Char)
  | 0, _, _ => none
  | _ + 1, _, [] => none
  | fuel + 1, acc, c :: rest =>
      if c = '"' then
        some (acc, rest)
      else if c = '\\' then
        match rest with
        | 'u' :: more =>
            match readEscape more with
            | some (.char d, after) => readString fuel (acc.map (d :: ·)) after
            | some (.half, after) => readString fuel none after
            | none => none
        | d :: more =>
            match simpleEscape d with
            | some e => readString fuel (acc.map (e :: ·)) more
            | none => none
        | [] => none
      else if c.toNat < 32 then
        none
      else
        readString fuel (acc.map (c :: ·)) rest

def readText (s : List Char) : Option (Option String × List Char) :=
  (readString (s.length + 1) (some []) s).map fun read =>
    (read.1.map fun chars => String.ofList chars.reverse, read.2)

/-- A member's name after its opening quote.  It is escaped when a backslash comes
before the first quote. -/
def readName (s : List Char) : Option (Option Name × List Char) :=
  let escaped := (s.takeWhile fun c => c != '"').contains '\\'
  (readText s).map fun read => (read.1.map fun text => { text, escaped }, read.2)

def spanDigits (s : List Char) : List Char × List Char :=
  (s.takeWhile Char.isDigit, s.dropWhile Char.isDigit)

/-- The whole part of a number: a zero alone, or digits that start with another. -/
def readWhole (s : List Char) : Option (List Char × List Char) :=
  match spanDigits s with
  | ([], _) => none
  | (['0'], rest) => some (['0'], rest)
  | ('0' :: _, _) => none
  | (digits, rest) => some (digits, rest)

/-- The fraction of a number with its point, empty when there is none. -/
def readFraction : List Char -> Option (List Char × List Char)
  | '.' :: rest =>
      match spanDigits rest with
      | ([], _) => none
      | (digits, more) => some ('.' :: digits, more)
  | rest => some ([], rest)

/-- The exponent of a number with its mark, empty when there is none. -/
def readExponent : List Char -> Option (List Char × List Char)
  | c :: rest =>
      if c = 'e' || c = 'E' then
        let (sign, more) := match rest with
          | '+' :: more => ([], more)
          | '-' :: more => (['-'], more)
          | _ => ([], rest)
        match spanDigits more with
        | ([], _) => none
        | (digits, after) => some ('e' :: sign ++ digits, after)
      else
        some ([], c :: rest)
  | [] => some ([], [])

def readNumber (s : List Char) : Option (Json × List Char) :=
  let (negative, body) := match s with
    | '-' :: rest => (true, rest)
    | _ => (false, s)
  match readWhole body with
  | none => none
  | some (whole, rest) =>
      match readFraction rest with
      | none => none
      | some (fraction, more) =>
          match readExponent more with
          | none => none
          | some (exponent, after) =>
              let sign := if negative then ['-'] else []
              let real := Json.real (sign ++ whole ++ fraction ++ exponent)
              if fraction.isEmpty && exponent.isEmpty then
                match Text.decimal? whole with
                | some n =>
                    if negative then
                      if n = 0 then some (real, after) else some (.int (-n), after)
                    else
                      some (.int n, after)
                | none => none
              else
                some (real, after)

/-- An object of its members in reverse, unless one of the names denotes nothing. -/
def objectOf (members : Option (List (Name × Json))) : Json :=
  match members with
  | some list => .obj list.reverse
  | none => .broken

mutual

/-- A value; the text starts with its first character. -/
def readValue : Nat -> List Char -> Option (Json × List Char)
  | 0, _ => none
  | fuel + 1, s =>
      match s with
      | 'n' :: 'u' :: 'l' :: 'l' :: rest => some (.null, rest)
      | 't' :: 'r' :: 'u' :: 'e' :: rest => some (.bool true, rest)
      | 'f' :: 'a' :: 'l' :: 's' :: 'e' :: rest => some (.bool false, rest)
      | '"' :: rest =>
          match readText rest with
          | some (some text, more) => some (.str text, more)
          | some (none, more) => some (.broken, more)
          | none => none
      | '[' :: rest =>
          match skipBlanks rest with
          | ']' :: more => some (.arr [], more)
          | start => readElements fuel [] start
      | '\x7b' :: rest =>
          match skipBlanks rest with
          | '\x7d' :: more => some (.obj [], more)
          | start => readMembers fuel (some []) start
      | _ => readNumber s

/-- The elements of an array from the one that the text starts with, after the
reversed ones already read. -/
def readElements : Nat -> List Json -> List Char -> Option (Json × List Char)
  | 0, _, _ => none
  | fuel + 1, acc, s =>
      match readValue fuel s with
      | none => none
      | some (item, rest) =>
          match skipBlanks rest with
          | ',' :: more => readElements fuel (item :: acc) (skipBlanks more)
          | ']' :: more => some (.arr (item :: acc).reverse, more)
          | _ => none

def readMembers : Nat -> Option (List (Name × Json)) -> List Char ->
    Option (Json × List Char)
  | 0, _, _ => none
  | fuel + 1, acc, s =>
      match s with
      | '"' :: rest =>
          match readName rest with
          | none => none
          | some (name, more) =>
              match skipBlanks more with
              | ':' :: start =>
                  match readValue fuel (skipBlanks start) with
                  | none => none
                  | some (value, after) =>
                      let read := match acc, name with
                        | some list, some name => some ((name, value) :: list)
                        | _, _ => none
                      match skipBlanks after with
                      | ',' :: next => readMembers fuel read (skipBlanks next)
                      | '\x7d' :: next => some (objectOf read, next)
                      | _ => none
              | _ => none
      | _ => none

end

def parse? (s : List Char) : Option Json :=
  match readValue (s.length + 1) (skipBlanks s) with
  | some (value, rest) => if (skipBlanks rest).isEmpty then some value else none
  | none => none

end Json
end Whereabouts
