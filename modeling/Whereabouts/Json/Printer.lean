import Whereabouts.Json.Basic
import Whereabouts.Text.Decimal
import Whereabouts.Text.Hexadecimal

/-!
# Writing JSON

Two layouts of one value: compact, without any blank, and indented, with two
spaces for each level.  An empty array or object is written without a line break
in both.
-/

namespace Whereabouts
namespace Json

def escapedChar (c : Char) : List Char :=
  if c = '"' then ['\\', '"']
  else if c = '\\' then ['\\', '\\']
  else if c = '\x08' then ['\\', 'b']
  else if c = '\x0c' then ['\\', 'f']
  else if c = '\n' then ['\\', 'n']
  else if c = '\r' then ['\\', 'r']
  else if c = '\t' then ['\\', 't']
  else if c.toNat < 32 then
    ['\\', 'u', '0', '0', Text.hexChar (c.toNat / 16), Text.hexChar (c.toNat % 16)]
  else [c]

def writtenString (s : String) : List Char :=
  '"' :: s.toList.flatMap escapedChar ++ ['"']

mutual

def compactChars : Json -> List Char
  | null => ['n', 'u', 'l', 'l']
  | bool true => ['t', 'r', 'u', 'e']
  | bool false => ['f', 'a', 'l', 's', 'e']
  | int value => Text.signedDecimal value
  | real text => text
  | str value => writtenString value
  | arr items => '[' :: compactItems items
  | obj members => '\x7b' :: compactMembers members
  | broken => ['n', 'u', 'l', 'l']

def compactItems : List Json -> List Char
  | [] => [']']
  | item :: rest => compactChars item ++ compactMoreItems rest

def compactMoreItems : List Json -> List Char
  | [] => [']']
  | item :: rest => ',' :: compactChars item ++ compactMoreItems rest

def compactMembers : List (Name × Json) -> List Char
  | [] => ['\x7d']
  | (name, value) :: rest =>
      writtenString name.text ++ ':' :: compactChars value ++ compactMoreMembers rest

def compactMoreMembers : List (Name × Json) -> List Char
  | [] => ['\x7d']
  | (name, value) :: rest =>
      ',' :: writtenString name.text ++ ':' :: compactChars value ++ compactMoreMembers rest

end

def compact (value : Json) : String :=
  String.ofList (compactChars value)

/-- A new line with two spaces for each level. -/
def newLine (level : Nat) : List Char :=
  '\n' :: List.replicate (2 * level) ' '

mutual

/-- The indented layout of a value inside `level` others. -/
def indentedChars (level : Nat) : Json -> List Char
  | null => ['n', 'u', 'l', 'l']
  | bool true => ['t', 'r', 'u', 'e']
  | bool false => ['f', 'a', 'l', 's', 'e']
  | int value => Text.signedDecimal value
  | real text => text
  | str value => writtenString value
  | arr items => '[' :: indentedItems level items
  | obj members => '\x7b' :: indentedMembers level members
  | broken => ['n', 'u', 'l', 'l']

def indentedItems (level : Nat) : List Json -> List Char
  | [] => [']']
  | item :: rest =>
      newLine (level + 1) ++ indentedChars (level + 1) item ++ indentedMoreItems level rest

def indentedMoreItems (level : Nat) : List Json -> List Char
  | [] => newLine level ++ [']']
  | item :: rest =>
      ',' :: newLine (level + 1) ++ indentedChars (level + 1) item
        ++ indentedMoreItems level rest

def indentedMembers (level : Nat) : List (Name × Json) -> List Char
  | [] => ['\x7d']
  | (name, value) :: rest =>
      newLine (level + 1) ++ writtenString name.text ++ ':' :: ' ' ::
        indentedChars (level + 1) value ++ indentedMoreMembers level rest

def indentedMoreMembers (level : Nat) : List (Name × Json) -> List Char
  | [] => newLine level ++ ['\x7d']
  | (name, value) :: rest =>
      ',' :: newLine (level + 1) ++ writtenString name.text ++ ':' :: ' ' ::
        indentedChars (level + 1) value ++ indentedMoreMembers level rest

end

def indented (value : Json) : String :=
  String.ofList (indentedChars 0 value)

end Json
end Whereabouts
