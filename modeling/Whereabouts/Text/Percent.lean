import Whereabouts.Text.Hexadecimal

/-!
# Percent encoding

Every byte of a text's UTF-8 form stands for itself when it is unreserved, and
as `%` with two hexadecimal digits otherwise.
-/

namespace Whereabouts
namespace Text

/-- The bytes that need no encoding: ASCII letters, digits and `-`, `_`, `.`, `~`. -/
def isUnreserved (b : UInt8) : Bool :=
  let n := b.toNat
  (48 ≤ n && n ≤ 57) || (65 ≤ n && n ≤ 90) || (97 ≤ n && n ≤ 122)
    || n == 45 || n == 46 || n == 95 || n == 126

def percentByte (b : UInt8) : List Char :=
  ['%', hexCapital (b.toNat / 16), hexCapital (b.toNat % 16)]

def encodedByte (b : UInt8) : List Char :=
  if isUnreserved b then [Char.ofNat b.toNat] else percentByte b

def percentEncoded (s : List Char) : List Char :=
  s.flatMap fun c => (String.utf8EncodeChar c).flatMap encodedByte

/-- The bytes that a percent-encoded text denotes: `%` needs two hexadecimal
digits after it, and every other character must be ASCII. -/
def percentDecoded? : List Char -> Option (List UInt8)
  | [] => some []
  | '%' :: hi :: lo :: rest =>
      match hexValue? hi, hexValue? lo with
      | some h, some l => (percentDecoded? rest).map (UInt8.ofNat (h * 16 + l) :: ·)
      | _, _ => none
  | c :: rest =>
      if c = '%' || 128 ≤ c.toNat then
        none
      else
        (percentDecoded? rest).map (UInt8.ofNat c.toNat :: ·)

/-- The bytes of a text in which `%` before two hexadecimal digits stands for a byte,
and anything else for itself. -/
def percentBytes : List Char -> List UInt8
  | [] => []
  | '%' :: hi :: lo :: rest =>
      match hexValue? hi, hexValue? lo with
      | some h, some l => UInt8.ofNat (h * 16 + l) :: percentBytes rest
      | _, _ => 37 :: percentBytes (hi :: lo :: rest)
  | c :: rest => String.utf8EncodeChar c ++ percentBytes rest

end Text
end Whereabouts
