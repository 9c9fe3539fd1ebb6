/-!
# Decimal numbers

Whole numbers as decimal digits, written and read back.
-/

namespace Whereabouts
namespace Text

def digitChar (n : Nat) : Char :=
  Char.ofNat (48 + n)

def digitValue? (c : Char) : Option Nat :=
  if c.isDigit then some (c.toNat - 48) else none

theorem digitValue?_digitChar {n : Nat} (h : n < 10) :
    digitValue? (digitChar n) = some n := by
  revert h
  revert n
  decide

/-- The decimal digits of a number, without leading zeros. -/
def decimal (n : Nat) : List Char :=
  if n < 10 then [digitChar n] else decimal (n / 10) ++ [digitChar (n % 10)]

/-- The number that a text of digits denotes, continuing from `acc`. -/
def decimalFrom? (acc : Nat) : List Char -> Option Nat
  | [] => some acc
  | c :: rest =>
      match digitValue? c with
      | some d => decimalFrom? (acc * 10 + d) rest
      | none => none

/-- The number that a non-empty text of ASCII digits denotes. -/
def decimal? (s : List Char) : Option Nat :=
  if s.isEmpty then none else decimalFrom? 0 s

theorem decimalFrom?_append (acc : Nat) (s t : List Char) :
    decimalFrom? acc (s ++ t) = (decimalFrom? acc s).bind (decimalFrom? · t) := by
  induction s generalizing acc with
  | nil => rfl
  | cons c s ih =>
      simp only [List.cons_append, decimalFrom?]
      cases digitValue? c with
      | none => rfl
      | some d => exact ih _

theorem decimal_ne_nil (n : Nat) : decimal n ≠ [] := by
  unfold decimal
  split <;> simp

theorem decimalFrom?_decimal (n : Nat) : decimalFrom? 0 (decimal n) = some n := by
  induction n using Nat.strongRecOn with
  | ind n ih =>
      unfold decimal
      split
      · rename_i h
        simp [decimalFrom?, digitValue?_digitChar h]
      · rename_i h
        rw [decimalFrom?_append, ih (n / 10) (by omega)]
        have h10 : n % 10 < 10 := Nat.mod_lt _ (by omega)
        simp only [Option.bind_some, decimalFrom?, digitValue?_digitChar h10,
          Option.some.injEq]
        omega

theorem decimal?_decimal (n : Nat) : decimal? (decimal n) = some n := by
  have h := decimal_ne_nil n
  cases hd : decimal n with
  | nil => exact absurd hd h
  | cons c rest => simpa [decimal?, hd] using decimalFrom?_decimal n

def signedDecimal : Int -> List Char
  | .ofNat n => decimal n
  | .negSucc n => '-' :: decimal (n + 1)

def natText (n : Nat) : String :=
  String.ofList (decimal n)

def intText (n : Int) : String :=
  String.ofList (signedDecimal n)

/-- At least `width` digits, with zeros in front. -/
def padded (width n : Nat) : List Char :=
  let digits := decimal n
  List.replicate (width - digits.length) '0' ++ digits

/-- A number from a text of ASCII digits, with an optional plus sign in front,
when it is at most `top`. -/
def count? (top : Nat) (s : List Char) : Option Nat :=
  let digits := match s with
    | '+' :: rest => rest
    | _ => s
  match decimal? digits with
  | some n => if n ≤ top then some n else none
  | none => none

/-- A 64-bit integer from ASCII digits with an optional sign in front. -/
def int64? (s : List Char) : Option Int64 :=
  match s with
  | '-' :: rest =>
      match decimal? rest with
      | some n => if n ≤ UInt64.size / 2 then some (Int64.ofInt (-(n : Int))) else none
      | none => none
  | _ =>
      match count? (UInt64.size / 2 - 1) s with
      | some n => some (Int64.ofNat n)
      | none => none

end Text
end Whereabouts
