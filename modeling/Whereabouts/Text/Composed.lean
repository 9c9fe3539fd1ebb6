import Whereabouts.Text.CombiningClass
import Whereabouts.Text.Composite

/-!
# Composed form

One way to write a text out of the many that look the same: composites are taken
apart, the marks on each character are put into the order of their classes, and
what can be composed is composed again.
-/

namespace Whereabouts
namespace Text

/-- How many composites may stand inside each other. -/
def compositeDepth : Nat :=
  4

def takenApart : (depth : Nat) -> Char -> List Char
  | 0, c => [c]
  | depth + 1, c =>
      match parts? c with
      | some (base, mark) => takenApart depth base ++ [mark]
      | none => [c]

/-- The marks in front of a text with one more among them, behind those of its own
class and of lower ones. -/
def insertMark (mark : Char) : List Char -> List Char
  | [] => [mark]
  | c :: rest =>
      if combiningClass c ≤ combiningClass mark then c :: insertMark mark rest
      else mark :: c :: rest

/-- A text in which the marks on each character are in order; `marks` holds those
that were read since the latest character. -/
def ordered (marks : List Char) : List Char -> List Char
  | [] => marks
  | c :: rest =>
      if combiningClass c = 0 then marks ++ c :: ordered [] rest
      else ordered (insertMark c marks) rest

/-- A text in which each character is composed with the marks on it that it can be
composed with.  `base` is the latest character and `marks` are the ones on it that
stayed, the latest first; a mark behind one of its own class stays too. -/
def recomposed (base : Option Char) (marks : List Char) : List Char -> List Char
  | [] => base.toList ++ marks.reverse
  | c :: rest =>
      let free : Bool := match marks.head? with
        | some mark => combiningClass mark < combiningClass c
        | none => true
      match if free then base.bind (composite? · c) else none with
      | some composite => recomposed (some composite) marks rest
      | none =>
          if combiningClass c = 0 then base.toList ++ marks.reverse ++ recomposed (some c) [] rest
          else recomposed base (c :: marks) rest

/-- The composed form of a text. -/
def composed (s : List Char) : List Char :=
  recomposed none [] (ordered [] (s.flatMap (takenApart compositeDepth)))

end Text
end Whereabouts
