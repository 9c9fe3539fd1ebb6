import Whereabouts.Text.Decimal

/-!
# The range of the doubles

How far the finite doubles reach, and which of them a natural number is rounded
to.  A decimal number `digits * 10 ^ power` is tested against the range without
writing out a large power.
-/

namespace Whereabouts
namespace Double

/-- The smallest magnitude that rounds beyond the largest finite double. -/
def limit : Nat :=
  Nat.pow 2 1024 - Nat.pow 2 970

/-- A natural number rounded to 53 significant bits; of two equally near results
the even one. -/
def nearest (n : Nat) : Nat :=
  let unit := Nat.pow 2 (n.log2 - 52)
  let base := n / unit
  let left := 2 * (n % unit)
  if unit < left || (left = unit && base % 2 = 1) then (base + 1) * unit else base * unit

/-- Whether the number `digits * 10 ^ power` rounds to a finite double. -/
def isFinite (digits : Nat) (power : Int) : Bool :=
  let size : Int := (Text.decimal digits).length + power
  if digits = 0 then true
  else if 310 < size then false
  else if size < 308 then true
  else if 0 ≤ power then digits * Nat.pow 10 power.toNat < limit
  else digits < limit * Nat.pow 10 (-power).toNat

/-- Whether the product of the doubles nearest to `significand` and `10 ^ power`
is finite, the power being at most 308. -/
def isFiniteProduct (significand : Nat) (power : Int) : Bool :=
  significand = 0 || power < 0
    || (power ≤ 308 && nearest significand * nearest (Nat.pow 10 power.toNat) < limit)

end Double
end Whereabouts
