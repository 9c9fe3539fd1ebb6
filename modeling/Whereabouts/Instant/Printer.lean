import Whereabouts.Instant.Basic
import Whereabouts.Text.Decimal

/-!
# Writing instants

The form of RFC 3339: four digits for a year from 0 to 9999, and a sign in front
of any other; no fraction, or the fewest of 3, 6 and 9 digits that lose nothing.
UTC is written as `Z` or as `+00:00`.
-/

namespace Whereabouts
namespace Instant

def yearChars (year : Int) : List Char :=
  if 0 ≤ year && year ≤ 9999 then Text.padded 4 year.toNat
  else if year < 0 then '-' :: Text.padded 4 (-year).toNat
  else '+' :: Text.padded 4 year.toNat

/-- A fraction of a second with its point, or nothing for zero. -/
def fractionChars (nanos : Nat) : List Char :=
  if nanos = 0 then []
  else if nanos % 1000000 = 0 then '.' :: Text.padded 3 (nanos / 1000000)
  else if nanos % 1000 = 0 then '.' :: Text.padded 6 (nanos / 1000)
  else '.' :: Text.padded 9 nanos

def civilChars (at' : Instant) : List Char :=
  yearChars at'.year ++ '-' :: Text.padded 2 at'.month ++ '-' :: Text.padded 2 at'.day
    ++ 'T' :: Text.padded 2 at'.hour ++ ':' :: Text.padded 2 at'.minute
    ++ ':' :: Text.padded 2 at'.second ++ fractionChars at'.nanos

/-- The instant with `Z` as its zone. -/
def text (at' : Instant) : String :=
  String.ofList (civilChars at' ++ ['Z'])

/-- The instant with `+00:00` as its zone. -/
def offsetText (at' : Instant) : String :=
  String.ofList (civilChars at' ++ ['+', '0', '0', ':', '0', '0'])

end Instant
end Whereabouts
