/-!
# JSON values

A JSON document as it was written: members keep their order and may share a
name, and a number that is no plain integer keeps its text.
-/

namespace Whereabouts

/-- The name of a member, and whether escapes were used to write it. -/
structure Json.Name where
  text : String
  escaped : Bool := false
  deriving DecidableEq, Inhabited, Repr

instance : Coe String Json.Name where
  coe text := { text }

/-- A JSON value.  `real` is a number with a fraction or an exponent, or `-0`;
`broken` is a value with a string that names half of a surrogate pair, which is
well formed and denotes nothing. -/
inductive Json where
  | null
  | bool (value : Bool)
  | int (value : Int)
  | real (text : List Char)
  | str (value : String)
  | arr (items : List Json)
  | obj (members : List (Json.Name × Json))
  | broken
  deriving Inhabited, Repr

namespace Json

/-- The last member of that name in an object. -/
def member? (name : String) : Json -> Option Json
  | obj members => (members.reverse.find? (fun m => m.1.text == name)).map Prod.snd
  | _ => none

def str? : Json -> Option String
  | str value => some value
  | _ => none

def intBetween? (low high : Int) : Json -> Option Int
  | int value => if low ≤ value ∧ value ≤ high then some value else none
  | _ => none

def bool? : Json -> Option Bool
  | bool value => some value
  | _ => none

end Json
end Whereabouts
