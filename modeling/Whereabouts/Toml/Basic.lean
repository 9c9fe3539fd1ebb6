import Whereabouts.Json.Basic

/-!
# TOML tables

A TOML document is built up line by line.  Every table remembers how it came to
be, because that decides what may be added to it: a table that a header defined
is closed for dotted keys and for another header of its name, and one that only
lies on the way to another may still be defined.
-/

namespace Whereabouts
namespace Toml

/-- How a table came to be. -/
inductive Origin where
  /-- It has a header, or is the document itself. -/
  | defined
  /-- It lies on the way to a table with a header. -/
  | passed
  /-- It was made by a dotted key. -/
  | dotted
  deriving DecidableEq, Inhabited

inductive Item where
  | value (value : Json)
  | table (origin : Origin) (members : List (String × Item))
  | tables (list : List (List (String × Item)))
  deriving Inhabited

abbrev Members := List (String × Item)

/-- The members with the item under a key replaced, or added at the end. -/
def put (key : String) (item : Item) : Members -> Members
  | [] => [(key, item)]
  | (k, old) :: rest => if k == key then (k, item) :: rest else (k, old) :: put key item rest

/-- Edits the table that a path of keys leads to, making the tables on the way.
With `dotted`, the way may not lead through a table with a header. -/
def edit (dotted : Bool) (change : Origin -> Members -> Option Members) (origin : Origin)
    (members : Members) : List String -> Option Members
  | [] => change origin members
  | key :: path =>
      match members.lookup key with
      | none =>
          let made := if dotted then Origin.dotted else Origin.passed
          (edit dotted change made [] path).map fun below =>
            put key (.table made below) members
      | some (.table inner old) =>
          if dotted && inner = .defined then
            none
          else
            (edit dotted change inner old path).map fun below =>
              put key (.table inner below) members
      | some (.tables list) =>
          match list.getLast? with
          | none => none
          | some last =>
              (edit dotted change .defined last path).map fun below =>
                put key (.tables (list.dropLast ++ [below])) members
      | some (.value _) => none

/-- Sets a key, with the dotted keys in front of it, in a table.  Only tables that
dotted keys made may be added to through dotted keys. -/
def setKey (members : Members) (path : List String) (key : String) (value : Json) :
    Option Members :=
  let change (origin : Origin) (inner : Members) : Option Members :=
    if (origin == .dotted) == path.isEmpty || (inner.lookup key).isSome then none
    else some (put key (.value value) inner)
  edit true change .defined members path

mutual

def Item.toJson : Item -> Json
  | .value v => v
  | .table _ members => .obj (membersJson members)
  | .tables list => .arr (tablesJson list)

def membersJson : List (String × Item) -> List (Json.Name × Json)
  | [] => []
  | (key, item) :: rest => (↑key, item.toJson) :: membersJson rest

def tablesJson : List (List (String × Item)) -> List Json
  | [] => []
  | members :: rest => .obj (membersJson members) :: tablesJson rest

end

/-- A document that is being read: the finished tables, and the table that the
latest header opened. -/
structure Draft where
  root : Members
  path : List String
  inArray : Bool
  current : Members

namespace Draft

def start : Draft where
  root := []
  path := []
  inArray := false
  current := []

def finished? (draft : Draft) : Option Members :=
  match draft.path.getLast? with
  | none => some draft.current
  | some key =>
      let change (_ : Origin) (members : Members) : Option Members :=
        match members.lookup key with
        | none =>
            if draft.inArray then some (put key (.tables [draft.current]) members)
            else some (put key (.table .defined draft.current) members)
        | some (.tables list) =>
            if draft.inArray then some (put key (.tables (list ++ [draft.current])) members)
            else none
        | some _ => none
      edit false change .defined draft.root draft.path.dropLast

def find? (members : Members) : List String -> Option Item
  | [] => none
  | [key] => members.lookup key
  | key :: path =>
      match members.lookup key with
      | some (.table _ inner) => find? inner path
      | some (.tables list) => (list.getLast?).bind fun last => find? last path
      | _ => none

def openTable? (draft : Draft) (path : List String) : Option Draft :=
  match draft.finished?, path.getLast? with
  | some root, some key =>
      match find? root path with
      | none => some { root, path, inArray := false, current := [] }
      | some (.table .passed members) =>
          let without (_ : Origin) (inner : Members) : Option Members :=
            some (inner.filter fun member => member.1 != key)
          (edit false without .defined root path.dropLast).map fun root =>
            { root, path, inArray := false, current := members }
      | some _ => none
  | _, _ => none

def openArray? (draft : Draft) (path : List String) : Option Draft :=
  match draft.finished? with
  | none => none
  | some root =>
      match find? root path with
      | none => some { root, path, inArray := true, current := [] }
      | some (.tables _) => some { root, path, inArray := true, current := [] }
      | some _ => none

def setKey? (draft : Draft) (path : List String) (key : String) (value : Json) :
    Option Draft :=
  (setKey draft.current path key value).map fun current => { draft with current }

end Draft
end Toml
end Whereabouts
