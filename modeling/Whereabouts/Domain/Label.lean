import Whereabouts.Domain.Mapping
import Whereabouts.Text.CombiningClass
import Whereabouts.Text.Joining
import Whereabouts.Text.Mark

/-!
# Labels

What a label between two dots of a name may look like.  It starts with no mark, an
invisible joiner stands only where it makes a difference, and in a name with
characters from right to left each label keeps its direction unambiguous.
-/

namespace Whereabouts
namespace Domain

/-! ## Joiners -/

/-- The joiner that keeps two letters apart. -/
def nonJoiner : Char :=
  '\u200C'

/-- The joiner that binds two letters. -/
def joiner : Char :=
  '\u200D'

/-- Whether the first character that is not transparent joins in one of the ways. -/
def joins (ways : List Text.Joining) (s : List Char) : Bool :=
  match (s.map Text.joining).find? fun way => way != .transparent with
  | some way => ways.contains way
  | none => false

/-- Whether a joiner may stand between two parts of a label, the first of which is
given in reverse. -/
def joinerFits (c : Char) (before after : List Char) : Bool :=
  let behindVirama := match before with
    | last :: _ => Text.combiningClass last = Text.viramaClass
    | [] => false
  behindVirama
    || (c = nonJoiner && joins [.left, .both] before && joins [.right, .both] after)

/-- Whether every joiner of a label may stand where it is; `before` holds the
characters in front, the latest first. -/
def joinersFit (before : List Char) : List Char -> Bool
  | [] => true
  | c :: rest =>
      ((c != joiner && c != nonJoiner) || joinerFits c before rest)
        && joinersFit (c :: before) rest

/-! ## Directions -/

/-- Whether a character makes a name one of both directions. -/
def isFromRight (c : Char) : Bool :=
  match Text.direction c with
  | .rightToLeft | .arabicLetter | .arabicNumber => true
  | _ => false

def isNeutral : Text.Direction -> Bool
  | .europeanNumber | .europeanSeparator | .europeanTerminator | .commonSeparator
  | .otherNeutral | .boundaryNeutral | .nonspacingMark => true
  | _ => false

def withoutFinalMarks (classes : List Text.Direction) : List Text.Direction :=
  (classes.reverse.dropWhile fun d => d = .nonspacingMark).reverse

/-- The rule for a label that is written from left to right. -/
def isLeftToRightLabel (classes : List Text.Direction) : Bool :=
  classes.all (fun d => d = .leftToRight || isNeutral d)
    && ((withoutFinalMarks classes).getLast?.any fun d =>
      d = .leftToRight || d = .europeanNumber)

/-- The rule for a label that is written from right to left: its digits are of one
kind. -/
def isRightToLeftLabel (classes : List Text.Direction) : Bool :=
  classes.all (fun d =>
      d = .rightToLeft || d = .arabicLetter || d = .arabicNumber || isNeutral d)
    && ((withoutFinalMarks classes).getLast?.any fun d =>
      d = .rightToLeft || d = .arabicLetter || d = .europeanNumber || d = .arabicNumber)
    && !(classes.contains .europeanNumber && classes.contains .arabicNumber)

def directionsFit (label : List Char) : Bool :=
  let classes := label.map Text.direction
  match classes with
  | [] => true
  | .leftToRight :: _ => isLeftToRightLabel classes
  | .rightToLeft :: _ => isRightToLeftLabel classes
  | .arabicLetter :: _ => isRightToLeftLabel classes
  | _ => false

/-! ## Labels -/

/-- Whether a label may stand in a name, whatever the other labels are. -/
def isLabel (label : List Char) : Bool :=
  !(label.head?.any Text.isMark) && label.all isPlain && joinersFit [] label

end Domain
end Whereabouts
