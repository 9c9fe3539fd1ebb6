/-!
# Ranges of code points

Properties of characters are given as inclusive ranges of code points, either of
those that have the property or with a value for each range.
-/

namespace Whereabouts
namespace Text

def inRanges (ranges : List (Nat × Nat)) (n : Nat) : Bool :=
  ranges.any (fun range => range.1 ≤ n && n ≤ range.2)

def valueIn? {α : Type} (ranges : List (Nat × Nat × α)) (n : Nat) : Option α :=
  (ranges.find? fun range => range.1 ≤ n && n ≤ range.2.1).map fun range => range.2.2

end Text
end Whereabouts
