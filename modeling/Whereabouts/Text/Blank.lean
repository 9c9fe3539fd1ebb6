/-!
# Blank characters

The characters of the Unicode property `White_Space`, and the cuts that remove
them from the ends of a text.
-/

namespace Whereabouts
namespace Text

/-- The characters of the Unicode property `White_Space`. -/
def isBlank (c : Char) : Bool :=
  let n := c.toNat
  (9 ≤ n && n ≤ 13) || n == 32 || n == 0x85 || n == 0xA0 || n == 0x1680
    || (0x2000 ≤ n && n ≤ 0x200A) || n == 0x2028 || n == 0x2029
    || n == 0x202F || n == 0x205F || n == 0x3000

def dropStart (p : Char -> Bool) (s : List Char) : List Char :=
  s.dropWhile p

def dropEnd (p : Char -> Bool) (s : List Char) : List Char :=
  (s.reverse.dropWhile p).reverse

theorem takeWhile_run {kind : Char -> Bool} {run rest : List Char}
    (hrun : forall c, c ∈ run -> kind c = true)
    (hrest : forall c, rest.head? = some c -> kind c = false) :
    (run ++ rest).takeWhile kind = run := by
  rw [List.takeWhile_append_of_pos hrun]
  cases rest with
  | nil => exact List.append_nil run
  | cons c rest =>
      rw [List.takeWhile_cons_of_neg (by simp [hrest c rfl]), List.append_nil]

theorem dropWhile_run {kind : Char -> Bool} {run rest : List Char}
    (hrun : forall c, c ∈ run -> kind c = true)
    (hrest : forall c, rest.head? = some c -> kind c = false) :
    (run ++ rest).dropWhile kind = rest := by
  rw [List.dropWhile_append_of_pos hrun]
  cases rest with
  | nil => rfl
  | cons c rest => exact List.dropWhile_cons_of_neg (by simp [hrest c rfl])

theorem head?_dropWhile {kind : Char -> Bool} {s : List Char} {c : Char}
    (h : (s.dropWhile kind).head? = some c) : kind c = false := by
  have hhead := List.head?_dropWhile_not kind s
  rw [h] at hhead
  simpa using hhead

def trimmed (s : List Char) : List Char :=
  dropEnd isBlank (dropStart isBlank s)

def trim (s : String) : String :=
  String.ofList (trimmed s.toList)

/-- A string of blanks only, the empty one included. -/
def isBlankText (s : String) : Bool :=
  s.toList.all isBlank

/-- The trimmed string, unless nothing is left of it. -/
def nonBlank? (s : String) : Option String :=
  if isBlankText s then none else some (trim s)

end Text
end Whereabouts
