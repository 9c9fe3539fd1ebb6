import Whereabouts.Text.Pieces

/-!
# The order of texts

Texts are in the order of their bytes: the bytes of a character come before those of a
later one, whatever follows.
-/

namespace Whereabouts
namespace Text

def bytes (s : String) : List UInt8 :=
  s.toList.flatMap String.utf8EncodeChar

theorem utf8EncodeChar_append_lt {c d : Char} (h : c < d) (u v : List UInt8) :
    String.utf8EncodeChar c ++ u < String.utf8EncodeChar d ++ v := by
  have hlt : c.val.toNat < d.val.toNat := h
  have hbound : d.val.toNat < 1114112 := by
    rcases d.valid with hd | hd
    · omega
    · exact hd.2
  unfold String.utf8EncodeChar
  dsimp only
  repeat' split
  all_goals
    simp only [List.cons_append, List.nil_append, List.cons_lt_cons_iff, UInt8.lt_iff_toNat_lt,
      <- UInt8.toNat_inj, UInt8.toNat_ofNat']
    simp (disch := omega) only [Nat.mod_eq_of_lt]
    omega

theorem flatMap_utf8EncodeChar_lt {s t : List Char} (h : s < t) :
    s.flatMap String.utf8EncodeChar < t.flatMap String.utf8EncodeChar := by
  induction t generalizing s with
  | nil => cases h
  | cons d t ih =>
      cases s with
      | nil =>
          have hne : (d :: t).flatMap String.utf8EncodeChar ≠ [] := fun hnil =>
            String.utf8EncodeChar_ne_nil (List.append_eq_nil_iff.mp hnil).1
          rcases List.exists_cons_of_ne_nil hne with ⟨b, rest, hcons⟩
          rw [hcons]
          exact List.nil_lt_cons b rest
      | cons c s =>
          rw [List.flatMap_cons, List.flatMap_cons]
          rcases List.cons_lt_cons_iff.mp h with hc | ⟨rfl, hs⟩
          · exact utf8EncodeChar_append_lt hc _ _
          · exact List.append_left_lt (ih hs)

theorem bytes_lt_bytes {s t : String} (h : s < t) : bytes s < bytes t :=
  flatMap_utf8EncodeChar_lt (String.lt_iff.mp h)

end Text
end Whereabouts
