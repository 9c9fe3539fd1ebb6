import Whereabouts.Domain.Expansions
import Whereabouts.Domain.Refused
import Whereabouts.Domain.Variants
import Whereabouts.Text.Composed

/-!
# Names in one form

The same name can be typed in many ways.  Every character of it is taken as it is,
written in another way, left out or refused, by the tables of UTS 46, and the
result is put into composed form.
-/

namespace Whereabouts
namespace Domain

/-- Characters that are left out of a name: they do not show. -/
def ignoredRanges : List (Nat × Nat) :=
  [(173, 173), (847, 847), (4447, 4448), (6068, 6069), (6155, 6159), (8203, 8203),
    (8288, 8292), (8298, 8303), (12644, 12644), (65024, 65039), (65279, 65279),
    (65440, 65440), (113824, 113827), (119155, 119162), (917760, 917999)]

/-- What a character is written as in a name, unless no name can hold it. -/
def mapped? (c : Char) : Option (List Char) :=
  let n := c.toNat
  if Text.inRanges ignoredRanges n then
    some []
  else
    match variant? n, inBlock? expansionBlocks n with
    | some target, _ => some [Char.ofNat target]
    | none, some targets => some (targets.map Char.ofNat)
    | none, none => if isRefused c then none else some [c]

/-- The one form of a name, unless it has a character that no name can hold. -/
def uniform? (name : List Char) : Option (List Char) :=
  (name.mapM mapped?).map fun parts => Text.composed parts.flatten

def isPlain (c : Char) : Bool :=
  mapped? c = some [c]

end Domain
end Whereabouts
