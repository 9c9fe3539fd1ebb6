/-!
# Punycode

Labels of domain names of any script, written in ASCII alone.  The ASCII
characters of a label come first, and behind the last hyphen the others are
inserted one by one, in the order of their code points.  Each insertion is one
number: how many places are passed over, counted through all lower code points
and all positions, since the insertion before.
-/

namespace Whereabouts
namespace Punycode

def digitChar (d : Nat) : Char :=
  if d < 26 then Char.ofNat (97 + d) else Char.ofNat (22 + d)

def digitValue? (c : Char) : Option Nat :=
  if c.isLower then some (c.toNat - 97)
  else if c.isUpper then some (c.toNat - 65)
  else if c.isDigit then some (c.toNat - 22)
  else none

/-- The least value of a digit that does not end a number, at a place of the number
counted in steps of 36. -/
def threshold (bias place : Nat) : Nat :=
  if place ≤ bias then 1 else min 26 (place - bias)

theorem threshold_pos (bias place : Nat) : 0 < threshold bias place := by
  unfold threshold
  split <;> omega

/-- The bias for a number of a usual size. -/
def settle (delta place : Nat) : Nat :=
  if 455 < delta then settle (delta / 35) (place + 36)
  else place + 36 * delta / (delta + 38)
termination_by delta
decreasing_by omega

/-- The bias after a number, when a label has `size` characters by then. -/
def adapted (delta size : Nat) (first : Bool) : Nat :=
  let scaled := if first then delta / 700 else delta / 2
  settle (scaled + scaled / size) 0

/-! ## Reading -/

/-- A label that is being read: what it has so far, the latest insertion, and the
number that is being read with the weight of its next digit. -/
structure Reading where
  output : List Char
  code : Nat
  index : Nat
  number : Nat
  weight : Nat
  place : Nat
  bias : Nat

def Reading.start (output : List Char) : Reading where
  output := output
  code := 128
  index := 0
  number := 0
  weight := 1
  place := 36
  bias := 72

/-- The reading after the character is inserted that a finished number stands for. -/
def Reading.insert? (reading : Reading) : Option Reading :=
  let size := reading.output.length + 1
  let passed := reading.index + reading.number
  let code := reading.code + passed / size
  if code < 0x110000 && !(0xD800 ≤ code && code ≤ 0xDFFF) then
    some
      { output := reading.output.insertIdx (passed % size) (Char.ofNat code)
        code, index := passed % size + 1, number := 0, weight := 1, place := 36
        bias := adapted reading.number size (reading.index = 0) }
  else
    none

def Reading.digit? (reading : Reading) (d : Nat) : Option Reading :=
  let least := threshold reading.bias reading.place
  let added := { reading with number := reading.number + d * reading.weight }
  if d < least then added.insert?
  else some { added with weight := added.weight * (36 - least), place := added.place + 36 }

/-- The label of the digits that are left; the last number must be complete. -/
def readFrom? (reading : Reading) : List Char -> Option (List Char)
  | [] => if reading.place = 36 then some reading.output else none
  | c :: rest =>
      match (digitValue? c).bind reading.digit? with
      | some next => readFrom? next rest
      | none => none

/-- The label that an ASCII text stands for. -/
def decode? (s : List Char) : Option (List Char) :=
  let digits := (s.reverse.takeWhile fun c => c != '-').reverse
  let before := s.take (s.length - digits.length)
  if before = ['-'] || before.any (fun c => 128 ≤ c.toNat) then none
  else readFrom? (.start before.dropLast) digits

/-! ## Writing -/

def digits (bias place n : Nat) : List Char :=
  let least := threshold bias place
  if n < least then
    [digitChar n]
  else
    digitChar (least + (n - least) % (36 - least))
      :: digits bias (place + 36) ((n - least) / (36 - least))
termination_by n
decreasing_by
  have positive := threshold_pos bias place
  have := Nat.div_le_self (n - threshold bias place) (36 - threshold bias place)
  omega

/-- A label that is being written: the digits so far, the places passed over since
the latest insertion, and how many characters are written. -/
structure Writing where
  output : List Char
  passed : Nat
  bias : Nat
  size : Nat

/-- The writing after a character of the label, when the ones with `code` are
inserted; `ascii` characters came first. -/
def Writing.pass (ascii code : Nat) (writing : Writing) (c : Char) : Writing :=
  if c.toNat < code then
    { writing with passed := writing.passed + 1 }
  else if c.toNat = code then
    { output := writing.output ++ digits writing.bias 36 writing.passed
      passed := 0
      bias := adapted writing.passed (writing.size + 1) (writing.size = ascii)
      size := writing.size + 1 }
  else
    writing

/-- The digits for the characters of a label with the given code points, which are
in order; all code points below `next` are done. -/
def writeFrom (label : List Char) (ascii : Nat) (writing : Writing) (next : Nat) :
    List Nat -> List Char
  | [] => writing.output
  | code :: rest =>
      let skipped := writing.passed + (code - next) * (writing.size + 1)
      let after := label.foldl (Writing.pass ascii code) { writing with passed := skipped }
      writeFrom label ascii { after with passed := after.passed + 1 } (code + 1) rest

/-- The ASCII text that stands for a label. -/
def encode (label : List Char) : List Char :=
  let ascii := label.filter fun c => c.toNat < 128
  let codes := ((label.filter fun c => 128 ≤ c.toNat).map Char.toNat).mergeSort.eraseDups
  let start := { output := [], passed := 0, bias := 72, size := ascii.length : Writing }
  (if ascii.isEmpty then [] else ascii ++ ['-']) ++ writeFrom label ascii.length start 128 codes

end Punycode
end Whereabouts
