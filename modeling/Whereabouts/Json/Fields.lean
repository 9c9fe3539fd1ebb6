import Whereabouts.Json.Basic

/-!
# Records in JSON

A record is an object with known member names, each at most once and unknown
ones skipped, or the array of the member values in the order of the names.  A
record that shares its object with another one is an object only.
-/

namespace Whereabouts
namespace Json

/-- The members of a record under their known names. -/
abbrev Fields := List (String × Json)

/-- The known members of an object, unless one of them is given twice. -/
def knownMembers? (names : List String) (members : List (Name × Json)) :
    Option Fields :=
  let named := members.map fun member => (member.1.text, member.2)
  let known := named.filter fun member => names.contains member.1
  if (known.map Prod.fst).Nodup then some known else none

/-- The members of a record that has its object for itself. -/
def fields? (names : List String) : Json -> Option Fields
  | obj members => knownMembers? names members
  | arr items => if items.length ≤ names.length then some (names.zip items) else none
  | _ => none

/-- The members of a record that shares its object. -/
def sharedFields? (names : List String) : Json -> Option Fields
  | obj members => knownMembers? names members
  | _ => none

def Fields.required? {α : Type} (fields : Fields) (name : String)
    (read : Json -> Option α) : Option α :=
  match fields.lookup name with
  | some value => read value
  | none => none

def Fields.orDefault? {α : Type} (fields : Fields) (name : String) (value : α)
    (read : Json -> Option α) : Option α :=
  match fields.lookup name with
  | some given => read given
  | none => some value

/-- The value of a member that may be absent or null. -/
def Fields.optional? {α : Type} (fields : Fields) (name : String)
    (read : Json -> Option α) : Option (Option α) :=
  match fields.lookup name with
  | some .null => some none
  | some given => (read given).map some
  | none => some none

def list? {α : Type} (read : Json -> Option α) : Json -> Option (List α)
  | arr items => items.mapM read
  | _ => none

def int64? (value : Json) : Option Int64 :=
  (value.intBetween? Int64.minValue.toInt Int64.maxValue.toInt).map Int64.ofInt

def uint64? (value : Json) : Option UInt64 :=
  (value.intBetween? 0 (UInt64.size - 1 : Nat)).map fun n => UInt64.ofNat n.toNat

def uint32? (value : Json) : Option UInt32 :=
  (value.intBetween? 0 (UInt32.size - 1 : Nat)).map fun n => UInt32.ofNat n.toNat

def count? (value : Json) : Option Nat :=
  (value.intBetween? 0 (UInt64.size - 1 : Nat)).map Int.toNat

def ofOption {α : Type} (write : α -> Json) : Option α -> Json
  | some value => write value
  | none => .null

def ofInt64 (n : Int64) : Json :=
  .int n.toInt

def ofUInt64 (n : UInt64) : Json :=
  .int n.toNat

/-- One of several named cases: the name, or an object with the name as its only
member and `unit` accepting the value. -/
def case? {α : Type} (unit : Json -> Bool) (cases : List (String × α)) :
    Json -> Option α
  | str name => cases.lookup name
  | obj [(name, value)] => if unit value then cases.lookup name.text else none
  | _ => none

def isNull : Json -> Bool
  | null => true
  | _ => false

/-- The entries of an object used as a table, in order. -/
def table? {κ α : Type} (readKey : Name -> Option κ) (read : Json -> Option α) :
    Json -> Option (List (κ × α))
  | obj members => members.mapM fun member =>
      match readKey member.1, read member.2 with
      | some key, some value => some (key, value)
      | _, _ => none
  | _ => none

end Json
end Whereabouts
