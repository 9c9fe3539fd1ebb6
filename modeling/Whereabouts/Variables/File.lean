import Whereabouts.Disk.Basic
import Whereabouts.Settings.Paths
import Whereabouts.Text.Alphanumeric
import Whereabouts.Text.Pieces

/-!
# Files of variables

Defaults for variables in a file of lines `NAME=value`.  Values may be quoted, may
refer to other variables, and may go on over several lines between quotes.  A
variable that is set is never changed.
-/

namespace Whereabouts
namespace VariableFile

/-! ## Lines -/

/-- What a line may end inside of. -/
inductive Scan where
  | plain
  | escape
  | strong
  | strongEscape
  | weak
  | weakEscape
  | blank
  deriving DecidableEq, Inhabited

/-- What comes after one more character, or nothing where a comment starts. -/
def Scan.next (scan : Scan) (c : Char) : Option Scan :=
  match scan with
  | .blank =>
      if c = '#' then none
      else if c = '\\' then some .escape
      else if c = '"' then some .weak
      else if c = '\'' then some .strong
      else some .plain
  | .escape => some .plain
  | .plain =>
      if Text.isBlank c && c != '\n' && c != '\r' then some .blank
      else if c = '\\' then some .escape
      else if c = '"' then some .weak
      else if c = '\'' then some .strong
      else some .plain
  | .weak =>
      if c = '\\' then some .weakEscape else if c = '"' then some .plain else some .weak
  | .weakEscape => some .weak
  | .strong =>
      if c = '\\' then some .strongEscape else if c = '\'' then some .plain else some .strong
  | .strongEscape => some .strong

/-- Where a line leads: what it ends inside of, or the part before a comment. -/
inductive Scanned where
  | ends (scan : Scan)
  | comment (before : List Char)

def scanLine (scan : Scan) (before : List Char) : List Char -> Scanned
  | [] => .ends scan
  | c :: rest =>
      match scan.next c with
      | some next => scanLine next (c :: before) rest
      | none => .comment before.reverse

def physicalLines : List Char -> List (List Char)
  | [] => []
  | c :: rest =>
      if c = '\n' then
        [c] :: physicalLines rest
      else
        match physicalLines rest with
        | line :: others => (c :: line) :: others
        | [] => [[c]]

def dropLineBreak (s : List Char) : List Char :=
  match s.reverse with
  | '\n' :: '\r' :: rest => rest.reverse
  | '\n' :: rest => rest.reverse
  | _ => s

inductive NextLine where
  | none
  | broken
  | line (text : List Char) (rest : List (List Char))

/-- Joins lines until one does not end inside of anything. -/
def nextLine (scan : Scan) (joined : List Char) : List (List Char) -> NextLine
  | [] => if scan = .plain then .none else .broken
  | line :: rest =>
      let text := joined ++ line
      if (Text.dropStart Text.isBlank text).head? = some '#' then
        .line [] rest
      else
        match scanLine scan [] line with
        | .comment before => .line (joined ++ before) rest
        | .ends .plain => .line (dropLineBreak text) rest
        | .ends scan => nextLine scan text rest

/-! ## Values -/

/-- The variables that are set and the values that the file gave so far. -/
structure Known where
  vars : Variables
  given : OrderedMap String String

/-- The text behind a name in the entries `name=value` of the variables.  A name
with an equals sign reaches into a value, which must have the rest of the name and
another equals sign in front. -/
def entry? (vars : Variables) (name : List Char) : Option (List Char) :=
  let plain := name.takeWhile fun c => c != '='
  match vars.get? (String.ofList plain), name.drop plain.length with
  | some value, [] => some value.toList
  | some value, _ :: more => Text.after? (more ++ ['=']) value.toList
  | none, _ => none

def Known.value (known : Known) (name : List Char) : List Char :=
  match entry? known.vars name with
  | some value => value
  | none => ((known.given.get? (String.ofList name)).getD "").toList

inductive Reference where
  | bare
  | braced
  deriving DecidableEq, Inhabited

structure ValueState where
  strong : Bool
  weak : Bool
  escaped : Bool
  ending : Bool
  reference : Option Reference
  name : List Char
  /-- The value so far, the latest character first. -/
  output : List Char

def ValueState.start : ValueState where
  strong := false
  weak := false
  escaped := false
  ending := false
  reference := none
  name := []
  output := []

def ValueState.resolve (known : Known) (state : ValueState) : ValueState :=
  { state with
    reference := none, name := [],
    output := (known.value state.name.reverse).reverse ++ state.output }

def escaped? : Char -> Option Char
  | '\\' => some '\\'
  | '\'' => some '\''
  | '"' => some '"'
  | '$' => some '$'
  | ' ' => some ' '
  | 'n' => some '\n'
  | _ => none

def ValueState.inReference (known : Known) (state : ValueState) (kind : Reference)
    (c : Char) : ValueState :=
  if Text.isAlphanumeric c then
    { state with name := c :: state.name }
  else
    match kind with
    | .braced =>
        if c = '\x7d' then state.resolve known else { state with name := c :: state.name }
    | .bare =>
        if c = '\x7b' && state.name.isEmpty then
          { state with reference := some .braced }
        else
          let done := state.resolve known
          if c = '$' then { done with reference := some .bare }
          else { done with output := c :: done.output }

/-- The state after a character outside references, escapes and strong quotes. -/
def ValueState.outside (state : ValueState) (c : Char) : ValueState :=
  if c = '$' then { state with reference := some .bare }
  else if c = '\\' then { state with escaped := true }
  else if state.weak then
    if c = '"' then { state with weak := false }
    else { state with output := c :: state.output }
  else if c = '\'' then { state with strong := true }
  else if c = '"' then { state with weak := true }
  else if c = ' ' || c = '\t' then { state with ending := true }
  else { state with output := c :: state.output }

def readValue (known : Known) (state : ValueState) : List Char -> Option (List Char)
  | [] =>
      if state.strong || state.weak || state.reference = some .braced then none
      else some (state.resolve known).output.reverse
  | c :: rest =>
      if state.ending then
        if c = ' ' || c = '\t' then readValue known state rest
        else if c = '#' then some state.output.reverse
        else none
      else if state.escaped then
        match escaped? c with
        | some d =>
            readValue known { state with escaped := false, output := d :: state.output } rest
        | none => none
      else if state.strong then
        if c = '\'' then readValue known { state with strong := false } rest
        else readValue known { state with output := c :: state.output } rest
      else
        match state.reference with
        | some kind => readValue known (state.inReference known kind c) rest
        | none => readValue known (state.outside c) rest

/-! ## Definitions -/

def isNameStart (c : Char) : Bool :=
  c.isAlpha || c = '_'

def isNameChar (c : Char) : Bool :=
  c.isAlphanum || c = '_' || c = '.'

def readName (s : List Char) : Option (List Char × List Char) :=
  match s with
  | c :: _ =>
      if isNameStart c then
        some (s.takeWhile isNameChar, Text.dropStart Text.isBlank (s.dropWhile isNameChar))
      else
        none
  | [] => none

inductive LineMeaning where
  | nothing
  | wrong
  | defines (name : List Char) (value : Option (List Char))

def defined (known : Known) (name rest : List Char) : LineMeaning :=
  match Text.dropStart Text.isBlank rest with
  | [] => .defines name none
  | '#' :: _ => .defines name none
  | value =>
      match readValue known .start value with
      | some text => .defines name (some text)
      | none => .wrong

/-- What a logical line defines; the word `export` may stand in front. -/
def meaning (known : Known) (line : List Char) : LineMeaning :=
  match Text.trimmed line with
  | [] => .nothing
  | '#' :: _ => .nothing
  | text =>
      match readName text with
      | none => .wrong
      | some (name, '=' :: rest) => defined known name rest
      | some (name, rest) =>
          if name = ['e', 'x', 'p', 'o', 'r', 't'] then
            match readName rest with
            | some (inner, '=' :: value) => defined known inner value
            | _ => .wrong
          else
            .wrong

/-- Goes through the lines and sets the variables that are not set; whether no
line was wrong comes with the result. -/
def apply : Nat -> Known -> List (List Char) -> Bool × Variables
  | 0, known, _ => (false, known.vars)
  | fuel + 1, known, lines =>
      match nextLine .plain [] lines with
      | .none => (true, known.vars)
      | .broken => (false, known.vars)
      | .line text rest =>
          match meaning known text with
          | .nothing => apply fuel known rest
          | .wrong => (false, known.vars)
          | .defines name value =>
              let key := String.ofList name
              let given := match value with
                | some chars => known.given.insert key (String.ofList chars)
                | none => known.given.erase key
              let vars :=
                if known.vars.contains key then known.vars
                else known.vars.insert key (String.ofList (value.getD []))
              apply fuel { vars, given } rest

def applyText (vars : Variables) (text : String) : Bool × Variables :=
  let chars := match text.toList with
    | '\uFEFF' :: rest => rest
    | chars => chars
  let lines := physicalLines chars
  apply (lines.length + 1) { vars, given := .empty } lines

/-! ## Which file -/

variable {m : Type -> Type} [Monad m]

def applyFile (disk : Disk m) (vars : Variables) (path : String) :
    m (Bool × Variables) := do
  match <- (disk.read path).run with
  | .ok text => return applyText vars text
  | .error _ => return (false, vars)

/-- The file below the directory of the program. -/
def standardPath? (vars : Variables) (accountHome : Option String) : Option String :=
  (Places.home? vars accountHome).map fun home => DiskPath.join home ".env"

/-- The variables with the defaults of the first file that applies, and its path:
the one that a variable names and no other, or the one in the working directory,
or the one below the directory of the program. -/
def load (disk : Disk m) (vars : Variables) (accountHome : Option String := none) :
    m (Option String × Variables) := do
  match vars.text? "LOCSYNC_ENV_FILE" with
  | some path =>
      let (complete, result) <- applyFile disk vars path
      return (if complete then some path else none, result)
  | none =>
      let (found, vars) <-
        if <- disk.isFile ".env" then applyFile disk vars ".env"
        else pure (false, vars)
      if found then
        return (some ".env", vars)
      else
        match standardPath? vars accountHome with
        | none => return (none, vars)
        | some path =>
            if <- disk.isFile path then
              let (complete, result) <- applyFile disk vars path
              return (if complete then some path else none, result)
            else
              return (none, vars)

end VariableFile
end Whereabouts
