import Whereabouts.Remote.Url
import Whereabouts.Text.Percent

/-!
# Percent-encoded texts

A percent-encoded text holds only characters that an address leaves as they are, it can
be read back, and it leads nowhere but for the two texts of dots that do so themselves.
-/

namespace Whereabouts
namespace Text

/-!
## Characters
-/

def isEncodedChar (c : Char) : Bool :=
  c = '%' || (c.toNat < 128 && isUnreserved (UInt8.ofNat c.toNat))

theorem forall_byte {P : UInt8 -> Prop} (h : forall n, n < 256 -> P (UInt8.ofNat n))
    (b : UInt8) : P b := by
  have hb := h b.toNat b.toNat_lt
  rwa [UInt8.ofNat_toNat] at hb

theorem isEncodedChar_of_mem_encodedByte (b : UInt8) :
    (encodedByte b).all isEncodedChar = true := by
  revert b
  apply forall_byte
  decide +kernel

theorem isEncodedChar_of_mem {s : List Char} {c : Char} (h : c ∈ percentEncoded s) :
    isEncodedChar c = true := by
  rcases List.mem_flatMap.mp h with ⟨source, _, hbytes⟩
  rcases List.mem_flatMap.mp hbytes with ⟨b, _, hc⟩
  exact List.all_eq_true.mp (isEncodedChar_of_mem_encodedByte b) c hc

theorem toNat_of_isEncodedChar {c : Char} (h : isEncodedChar c = true) : c.toNat < 128 := by
  rw [isEncodedChar, Bool.or_eq_true, Bool.and_eq_true, decide_eq_true_eq,
    decide_eq_true_eq] at h
  rcases h with rfl | h
  · decide
  · exact h.1

theorem forall_encodedChar {P : Char -> Prop}
    (h : forall n, n < 128 -> isEncodedChar (Char.ofNat n) = true -> P (Char.ofNat n)) (c : Char)
    (hc : isEncodedChar c = true) : P c := by
  have hn := h c.toNat (toNat_of_isEncodedChar hc)
  rw [Char.ofNat_toNat] at hn
  exact hn hc

/-!
## Reading back
-/

theorem percentDecoded?_percentByte (b : UInt8) (rest : List Char) :
    percentDecoded? (percentByte b ++ rest) = (percentDecoded? rest).map (b :: ·) := by
  have hbound := b.toNat_lt
  have hhigh : b.toNat / 16 < 16 := by omega
  have hlow : b.toNat % 16 < 16 := by omega
  have hvalue : b.toNat / 16 * 16 + b.toNat % 16 = b.toNat := by omega
  unfold percentByte
  rw [List.cons_append, List.cons_append, List.cons_append, List.nil_append, percentDecoded?,
    hexValue?_hexCapital hhigh, hexValue?_hexCapital hlow]
  dsimp only
  rw [hvalue, UInt8.ofNat_toNat]

theorem percentDecoded?_cons {c : Char} (hmark : c ≠ '%') (hascii : c.toNat < 128)
    (rest : List Char) :
    percentDecoded? (c :: rest) = (percentDecoded? rest).map (UInt8.ofNat c.toNat :: ·) := by
  rw [percentDecoded?]
  · simp [hmark, Nat.not_le.mpr hascii]
  · intro hi lo tail heq
    cases heq
    exact absurd rfl hmark

theorem unreserved_char (b : UInt8) (h : isUnreserved b = true) :
    Char.ofNat b.toNat ≠ '%' ∧ (Char.ofNat b.toNat).toNat = b.toNat ∧ b.toNat < 128 := by
  revert b
  apply forall_byte
  decide +kernel

theorem percentDecoded?_encodedByte (b : UInt8) (rest : List Char) :
    percentDecoded? (encodedByte b ++ rest) = (percentDecoded? rest).map (b :: ·) := by
  unfold encodedByte
  split
  · rename_i h
    rcases unreserved_char b h with ⟨hmark, hchar, hascii⟩
    rw [List.singleton_append, percentDecoded?_cons hmark (hchar.symm ▸ hascii), hchar,
      UInt8.ofNat_toNat]
  · exact percentDecoded?_percentByte b rest

theorem percentDecoded?_encodedBytes (bytes : List UInt8) :
    percentDecoded? (bytes.flatMap encodedByte) = some bytes := by
  induction bytes with
  | nil => rfl
  | cons b bytes ih => rw [List.flatMap_cons, percentDecoded?_encodedByte, ih, Option.map_some]

theorem percentDecoded?_percentEncoded (s : List Char) :
    percentDecoded? (percentEncoded s) = some (s.flatMap String.utf8EncodeChar) := by
  rw [percentEncoded, ← List.flatMap_assoc, percentDecoded?_encodedBytes]

/-- The text that a percent-encoded text denotes: its bytes are read as UTF-8. -/
def percentText? (s : List Char) : Option (List Char) :=
  (percentDecoded? s).bind fun bytes => bytes.toByteArray.utf8Decode?.map Array.toList

theorem percentText?_percentEncoded (s : List Char) :
    percentText? (percentEncoded s) = some s := by
  have hdecoded : (s.flatMap String.utf8EncodeChar).toByteArray.utf8Decode? = some s.toArray :=
    List.utf8Decode?_utf8Encode
  rw [percentText?, percentDecoded?_percentEncoded, Option.bind_some, hdecoded, Option.map_some,
    List.toList_toArray]

theorem percentEncoded_injective : Function.Injective percentEncoded := by
  intro s t h
  have htexts := congrArg percentText? h
  rw [percentText?_percentEncoded, percentText?_percentEncoded] at htexts
  exact Option.some.inj htexts

end Text

/-!
## Dots
-/

namespace Url

theorem plainDots_cons {c : Char} (h : c ≠ '%') (rest : List Char) :
    plainDots (c :: rest) = c :: plainDots rest := by
  rw [plainDots]
  intro e tail heq
  cases heq
  exact absurd rfl h

theorem percentByte_digits (b : UInt8) (h : Text.isUnreserved b = false) :
    Text.hexCapital (b.toNat / 16) ≠ '%' ∧ Text.hexCapital (b.toNat % 16) ≠ '%' ∧
      (Text.hexCapital (b.toNat / 16) = '2' -> Text.hexCapital (b.toNat % 16) ≠ 'e' ∧
        Text.hexCapital (b.toNat % 16) ≠ 'E') := by
  revert b
  apply Text.forall_byte
  decide +kernel

theorem plainDots_encodedByte (b : UInt8) (rest : List Char) :
    plainDots (Text.encodedByte b ++ rest) = Text.encodedByte b ++ plainDots rest := by
  unfold Text.encodedByte
  split
  · rename_i h
    exact plainDots_cons (Text.unreserved_char b h).1 rest
  · rename_i h
    rcases percentByte_digits b (Bool.eq_false_iff.mpr h) with ⟨hhigh, hlow, hdot⟩
    have hcases : plainDots ('%' :: Text.hexCapital (b.toNat / 16) ::
        Text.hexCapital (b.toNat % 16) :: rest) = '%' :: Text.hexCapital (b.toNat / 16) ::
          Text.hexCapital (b.toNat % 16) :: plainDots rest := by
      by_cases htwo : Text.hexCapital (b.toNat / 16) = '2'
      · rcases hdot htwo with ⟨hsmall, hcapital⟩
        rw [htwo, plainDots, if_neg]
        simp [hsmall, hcapital]
      · rw [plainDots, plainDots_cons hhigh, plainDots_cons hlow]
        intro e tail _ heq
        exact htwo (List.cons.inj heq).1
    exact hcases

theorem plainDots_percentEncoded (s : List Char) :
    plainDots (Text.percentEncoded s) = Text.percentEncoded s := by
  have hbytes : forall bytes : List UInt8,
      plainDots (bytes.flatMap Text.encodedByte) = bytes.flatMap Text.encodedByte := by
    intro bytes
    induction bytes with
    | nil => rfl
    | cons b bytes ih => rw [List.flatMap_cons, plainDots_encodedByte, ih]
  rw [Text.percentEncoded, ← List.flatMap_assoc, hbytes]

theorem isHere_percentEncoded (s : List Char) :
    isHere (Text.percentEncoded s) = decide (s = ['.']) := by
  rw [isHere, plainDots_percentEncoded, decide_eq_decide]
  exact Text.percentEncoded_injective.eq_iff (b := ['.'])

theorem isUp_percentEncoded (s : List Char) :
    isUp (Text.percentEncoded s) = decide (s = ['.', '.']) := by
  rw [isUp, plainDots_percentEncoded, decide_eq_decide]
  exact Text.percentEncoded_injective.eq_iff (b := ['.', '.'])

end Url
end Whereabouts
