/-!
# Hexadecimal numbers
-/

namespace Whereabouts
namespace Text

def hexChar (n : Nat) : Char :=
  if n < 10 then Char.ofNat (48 + n) else Char.ofNat (87 + n)

def hexCapital (n : Nat) : Char :=
  if n < 10 then Char.ofNat (48 + n) else Char.ofNat (55 + n)

def hexValue? (c : Char) : Option Nat :=
  let n := c.toNat
  if 48 ≤ n && n ≤ 57 then some (n - 48)
  else if 97 ≤ n && n ≤ 102 then some (n - 87)
  else if 65 ≤ n && n ≤ 70 then some (n - 55)
  else none

theorem hexValue?_hexChar {n : Nat} (h : n < 16) : hexValue? (hexChar n) = some n := by
  revert h
  revert n
  decide

theorem hexValue?_hexCapital {n : Nat} (h : n < 16) :
    hexValue? (hexCapital n) = some n := by
  revert h
  revert n
  decide

def hexadecimal (n : Nat) : List Char :=
  if n < 16 then [hexChar n] else hexadecimal (n / 16) ++ [hexChar (n % 16)]

/-- The number that a text of hexadecimal digits denotes, continuing from `acc`. -/
def hexFrom? (acc : Nat) : List Char -> Option Nat
  | [] => some acc
  | c :: rest =>
      match hexValue? c with
      | some d => hexFrom? (acc * 16 + d) rest
      | none => none

end Text
end Whereabouts
