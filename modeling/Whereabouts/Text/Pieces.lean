/-!
# Cutting and joining texts

A text cut at every occurrence of one character has one piece more than there
are occurrences, and joining the pieces with that character gives the text back.
-/

namespace Whereabouts
namespace Text

/-- The pieces between the occurrences of `sep`; always at least one. -/
def pieces (sep : Char) : List Char -> List (List Char)
  | [] => [[]]
  | c :: rest =>
      if c = sep then
        [] :: pieces sep rest
      else
        match pieces sep rest with
        | [] => [[c]]
        | piece :: others => (c :: piece) :: others

theorem pieces_ne_nil (sep : Char) (s : List Char) : pieces sep s ≠ [] := by
  cases s with
  | nil => simp [pieces]
  | cons c rest =>
      unfold pieces
      split
      · simp
      · split <;> simp

def joined (sep : Char) : List (List Char) -> List Char
  | [] => []
  | [piece] => piece
  | piece :: others => piece ++ sep :: joined sep others

theorem joined_pieces (sep : Char) (s : List Char) : joined sep (pieces sep s) = s := by
  induction s with
  | nil => rfl
  | cons c rest ih =>
      have hne := pieces_ne_nil sep rest
      unfold pieces
      split
      · rename_i h
        cases hp : pieces sep rest with
        | nil => exact absurd hp hne
        | cons piece others =>
            rw [hp] at ih
            simp [joined, ih, h]
      · cases hp : pieces sep rest with
        | nil => exact absurd hp hne
        | cons piece others =>
            rw [hp] at ih
            cases others with
            | nil => simpa [joined] using ih
            | cons next more => simpa [joined] using ih

theorem not_mem_of_mem_pieces {sep : Char} {s piece : List Char}
    (h : piece ∈ pieces sep s) : sep ∉ piece := by
  induction s generalizing piece with
  | nil => simp [pieces] at h; simp [h]
  | cons c rest ih =>
      unfold pieces at h
      split at h
      · rcases List.mem_cons.1 h with rfl | h
        · simp
        · exact ih h
      · rename_i hc
        cases hp : pieces sep rest with
        | nil => exact absurd hp (pieces_ne_nil sep rest)
        | cons first others =>
            rw [hp] at h ih
            rcases List.mem_cons.1 h with rfl | h
            · have := ih (List.mem_cons_self ..)
              simp only [List.mem_cons, not_or]
              exact ⟨fun e => hc e.symm, this⟩
            · exact ih (List.mem_cons_of_mem _ h)

/-- What follows `head` in `s`, when `s` starts with it. -/
def after? : List Char -> List Char -> Option (List Char)
  | [], s => some s
  | _ :: _, [] => none
  | h :: head, c :: s => if h = c then after? head s else none

theorem after?_eq_some_iff {head s rest : List Char} :
    after? head s = some rest ↔ s = head ++ rest := by
  induction head generalizing s with
  | nil => simp [after?, eq_comm]
  | cons h head ih =>
      cases s with
      | nil => simp [after?]
      | cons c s =>
          by_cases hc : h = c
          · subst hc
            simp [after?, ih]
          · simp only [after?, hc, if_false, List.cons_append, List.cons.injEq]
            simp [Ne.symm hc]

def occursIn (part : List Char) : List Char -> Bool
  | [] => part.isEmpty
  | c :: rest => part.isPrefixOf (c :: rest) || occursIn part rest

theorem occursIn_iff_infix {part s : List Char} : occursIn part s = true ↔ part <:+: s := by
  induction s with
  | nil => simp [occursIn]
  | cons c rest ih =>
      rw [occursIn, Bool.or_eq_true, List.isPrefixOf_iff_prefix, List.infix_cons_iff, ih]

/-- The text with occurrences of `part` replaced by `new`, where `skip` characters
belong to an occurrence that has been replaced. -/
def replaceFrom (part new : List Char) : (skip : Nat) -> List Char -> List Char
  | _, [] => []
  | skip + 1, _ :: rest => replaceFrom part new skip rest
  | 0, c :: rest =>
      if part.isPrefixOf (c :: rest) then
        new ++ replaceFrom part new (part.length - 1) rest
      else
        c :: replaceFrom part new 0 rest

/-- Every occurrence of `part`, from the left, replaced by `new`; an occurrence
that overlaps a replaced one does not count.  An empty `part` replaces nothing. -/
def replaceAll (part new s : List Char) : List Char :=
  if part.isEmpty then s else replaceFrom part new 0 s

def joinWith (sep : String) : List String -> String
  | [] => ""
  | [s] => s
  | s :: others => s ++ sep ++ joinWith sep others

end Text
end Whereabouts
