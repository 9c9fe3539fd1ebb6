import Whereabouts.RemotePath

/-!
# Names in paths

The names in a path are its segments that are not empty.  Slashes in front of a path, and
more than one between two names, make no difference to them.
-/

namespace Whereabouts

/-!
## Pieces
-/

namespace Text

theorem pieces_append_sep (sep : Char) (a b : List Char) :
    pieces sep (a ++ sep :: b) = pieces sep a ++ pieces sep b := by
  induction a with
  | nil => simp [pieces]
  | cons c a ih =>
      by_cases hc : c = sep
      · simp [pieces, hc, ih]
      · rcases List.exists_cons_of_ne_nil (pieces_ne_nil sep a) with ⟨piece, others, hpieces⟩
        rw [List.cons_append, pieces, if_neg hc, ih, pieces, if_neg hc, hpieces]
        rfl

theorem pieces_of_not_mem {sep : Char} {s : List Char} (h : sep ∉ s) : pieces sep s = [s] := by
  induction s with
  | nil => rfl
  | cons c s ih =>
      rw [List.mem_cons, not_or] at h
      rw [pieces, if_neg (Ne.symm h.1), ih h.2]

theorem mem_of_mem_pieces {sep c : Char} {s piece : List Char} (h : piece ∈ pieces sep s)
    (hc : c ∈ piece) : c ∈ s := by
  induction s generalizing piece with
  | nil =>
      rw [pieces, List.mem_singleton] at h
      rwa [h] at hc
  | cons d rest ih =>
      rcases List.exists_cons_of_ne_nil (pieces_ne_nil sep rest) with ⟨first, others, hpieces⟩
      rw [pieces, hpieces] at h
      rw [hpieces] at ih
      split at h
      · rcases List.mem_cons.mp h with rfl | h
        · cases hc
        · exact List.mem_cons_of_mem d (ih h hc)
      · rcases List.mem_cons.mp h with rfl | h
        · rcases List.mem_cons.mp hc with rfl | hc
          · exact List.mem_cons_self
          · exact List.mem_cons_of_mem d (ih List.mem_cons_self hc)
        · exact List.mem_cons_of_mem d (ih (List.mem_cons_of_mem _ h) hc)

theorem of_mem_joined {sep c : Char} {parts : List (List Char)} (h : c ∈ joined sep parts) :
    c = sep ∨ exists part, part ∈ parts ∧ c ∈ part := by
  induction parts with
  | nil => cases h
  | cons part rest ih =>
      cases rest with
      | nil => exact Or.inr ⟨part, List.mem_singleton_self part, h⟩
      | cons next others =>
          rw [joined] at h
          · rcases List.mem_append.mp h with h | h
            · exact Or.inr ⟨part, List.mem_cons_self, h⟩
            · rcases List.mem_cons.mp h with rfl | h
              · exact Or.inl rfl
              · rcases ih h with rfl | ⟨other, hother, hc⟩
                · exact Or.inl rfl
                · exact Or.inr ⟨other, List.mem_cons_of_mem _ hother, hc⟩
          · exact List.cons_ne_nil _ _

theorem pieces_joined {sep : Char} {parts : List (List Char)} (hne : parts ≠ [])
    (hsep : forall part, part ∈ parts -> sep ∉ part) :
    pieces sep (joined sep parts) = parts := by
  induction parts with
  | nil => exact absurd rfl hne
  | cons part rest ih =>
      have hpart := pieces_of_not_mem (hsep part List.mem_cons_self)
      cases rest with
      | nil => exact hpart
      | cons next others =>
          rw [joined, pieces_append_sep, hpart,
            ih (List.cons_ne_nil _ _) fun other hother =>
              hsep other (List.mem_cons_of_mem _ hother)]
          · rfl
          · exact List.cons_ne_nil _ _

end Text

/-!
## Names
-/

namespace RemotePath

/-- A text that is one segment of a path and leads nowhere else. -/
structure IsName (name : String) : Prop where
  ne_empty : name ≠ ""
  no_slash : '/' ∉ name.toList
  ne_here : name ≠ "."
  ne_up : name ≠ ".."

def namesIn (s : List Char) : List (List Char) :=
  (Text.pieces '/' s).filter fun name => !name.isEmpty

def names (path : String) : List (List Char) :=
  namesIn path.toList

theorem namesIn_append_slash (a b : List Char) :
    namesIn (a ++ '/' :: b) = namesIn a ++ namesIn b := by
  rw [namesIn, Text.pieces_append_sep, List.filter_append]
  rfl

theorem namesIn_slash (s : List Char) : namesIn ('/' :: s) = namesIn s :=
  namesIn_append_slash [] s

theorem namesIn_name {name : List Char} (hne : name ≠ []) (hslash : '/' ∉ name) :
    namesIn name = [name] := by
  have hkeep : (!name.isEmpty) = true := by
    rw [List.isEmpty_eq_false_iff.mpr hne]
    rfl
  rw [namesIn, Text.pieces_of_not_mem hslash]
  exact List.filter_cons_of_pos hkeep

theorem apply_dropStart {β : Type} (f : List Char -> β) (h : forall s, f ('/' :: s) = f s)
    (s : List Char) : f (Text.dropStart isSlash s) = f s := by
  induction s with
  | nil => rfl
  | cons c s ih =>
      unfold Text.dropStart at *
      rw [List.dropWhile_cons]
      split
      · rename_i hc
        have hslash : c = '/' := by simpa [isSlash] using hc
        rw [ih, hslash, h]
      · rfl

theorem namesIn_dropStart (s : List Char) : namesIn (Text.dropStart isSlash s) = namesIn s :=
  apply_dropStart namesIn namesIn_slash s

theorem names_relative (path : String) : names (relative path) = names path := by
  rw [names, relative, String.toList_ofList, namesIn_dropStart]
  rfl

theorem names_absolute (path : String) : names (absolute path) = names path := by
  rw [names, absolute, String.toList_ofList, namesIn_slash, namesIn_dropStart]
  rfl

theorem namesIn_joined {parts : List (List Char)}
    (h : forall part, part ∈ parts -> part ≠ [] ∧ '/' ∉ part) :
    namesIn (Text.joined '/' parts) = parts := by
  cases parts with
  | nil => rfl
  | cons part rest =>
      rw [namesIn, Text.pieces_joined (List.cons_ne_nil _ _) fun other hother => (h other hother).2,
        List.filter_eq_self]
      intro other hother
      simpa using (h other hother).1

theorem of_mem_namesIn {s name : List Char} (h : name ∈ namesIn s) : name ≠ [] ∧ '/' ∉ name := by
  rcases List.mem_filter.mp h with ⟨hmem, hne⟩
  exact ⟨by simpa using hne, Text.not_mem_of_mem_pieces hmem⟩

end RemotePath
end Whereabouts
