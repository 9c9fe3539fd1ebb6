import Whereabouts.Domain.Label
import Whereabouts.Domain.Punycode
import Whereabouts.Text.Pieces

/-!
# Names of domains

A name of any script becomes a name in ASCII.  Its labels stand between dots, and a
label that is not in ASCII is written in Punycode behind `xn--`; a label that was
written so already must stand for one that could have been written out.
-/

namespace Whereabouts
namespace Domain

/-- What a label in Punycode starts with. -/
def codedMark : List Char :=
  ['x', 'n', '-', '-']

def isAscii (c : Char) : Bool :=
  c.toNat < 128

/-- The label that a text in Punycode stands for, when it needs Punycode. -/
def decoded? (code : List Char) : Option (List Char) := do
  let label <- Punycode.decode? code
  if label.all isAscii || Text.composed label != label then none else some label

def label? (written : List Char) : Option (List Char) := do
  let label <- match Text.after? codedMark written with
    | some code => decoded? code
    | none => some written
  if isLabel label then some label else none

def asciiLabel (label : List Char) : List Char :=
  if label.all isAscii then label else codedMark ++ Punycode.encode label

/-- A name in ASCII.  Names with characters from right to left keep the rule for
directions in every label. -/
def ascii? (name : List Char) : Option (List Char) := do
  let uniform <- uniform? name
  let labels <- (Text.pieces '.' uniform).mapM label?
  if labels.any (fun label => label.any isFromRight) && !labels.all directionsFit then
    none
  else
    return Text.joined '.' (labels.map asciiLabel)

end Domain
end Whereabouts
