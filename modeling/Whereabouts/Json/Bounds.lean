import Whereabouts.Double
import Whereabouts.Json.Basic

/-!
# Values that can be held

A value that is kept rather than skipped must be representable: no string with
half a surrogate pair, no number beyond the double range, and at most 127 levels
of nesting counted from the document's root.  A number is held as the product of
a 64-bit significand and a power of ten, each rounded to a double.
-/

namespace Whereabouts
namespace Json

/-- The number `acc` continued by digits while it fits into 64 bits, and the
digits that are left. -/
def significand : Nat -> List Char -> Nat × List Char
  | acc, [] => (acc, [])
  | acc, c :: rest =>
      let next := acc * 10 + (c.toNat - 48)
      if next < UInt64.size then significand next rest else (acc, c :: rest)

/-- A number without its exponent as a 64-bit significand and the power of ten it
is multiplied by.  A whole digit that no longer fits counts one power more, a
digit of the fraction one less, and one of the fraction that does not fit counts
nothing. -/
def scaled (whole fraction : List Char) : Nat × Int :=
  let (upper, dropped) := significand 0 whole
  let (n, unused) := significand upper fraction
  (n, (dropped.length : Int) - (fraction.length - unused.length : Nat))

def withoutSign : List Char -> List Char
  | '-' :: rest => rest
  | rest => rest

/-- Whether the number that a text denotes can be held as a double.  An exponent
beyond 32 bits makes every number but zero too large or zero. -/
def inDoubleRange (text : List Char) : Bool :=
  let mantissa := (withoutSign text).takeWhile fun c => c != 'e'
  let mark := (text.dropWhile fun c => c != 'e').drop 1
  let whole := mantissa.takeWhile fun c => c != '.'
  let fraction := (mantissa.dropWhile fun c => c != '.').drop 1
  let (n, power) := scaled whole fraction
  let exponent := (Text.decimalFrom? 0 (withoutSign mark)).getD 0
  if mark.head? = some '-' then
    UInt32.size / 2 ≤ exponent || Double.isFiniteProduct n (power - exponent)
  else if UInt32.size / 2 ≤ exponent then
    n = 0
  else
    Double.isFiniteProduct n (power + exponent)

mutual

/-- Whether the value can be held when `room` more levels may be opened. -/
def isBounded (room : Nat) : Json -> Bool
  | broken => false
  | real text => inDoubleRange text
  | int value => inDoubleRange (Text.signedDecimal value)
  | arr items =>
      match room with
      | 0 => false
      | room + 1 => itemsBounded room items
  | obj members =>
      match room with
      | 0 => false
      | room + 1 => membersBounded room members
  | _ => true

def itemsBounded (room : Nat) : List Json -> Bool
  | [] => true
  | item :: rest => isBounded room item && itemsBounded room rest

def membersBounded (room : Nat) : List (Name × Json) -> Bool
  | [] => true
  | (_, value) :: rest => isBounded room value && membersBounded room rest

end

/-- The deepest nesting of a document. -/
def deepest : Nat :=
  127

end Json
end Whereabouts
