import Whereabouts.Instant.Basic
import Whereabouts.Text.Blank
import Whereabouts.Text.Decimal

/-!
# Reading instants

A tolerant reading of RFC 3339: numbers need not be padded, blanks may stand
around the marks, and the date is parted from the time by `T`, `t` or a space.
The zone is `Z`, `UTC` or an offset with hours and minutes.
-/

namespace Whereabouts
namespace Instant

def skipBlanks (s : List Char) : List Char :=
  Text.dropStart Text.isBlank s

/-- The number of the first one to `most` digits, and the rest. -/
def readDigits (most : Nat) (s : List Char) : Option (Nat × List Char) :=
  let digits := (s.take most).takeWhile Char.isDigit
  (Text.decimal? digits).map (·, s.drop digits.length)

/-- A number of at most two digits, with blanks before it. -/
def readShort (s : List Char) : Option (Nat × List Char) :=
  readDigits 2 (skipBlanks s)

/-- A year: up to four digits, or a sign and any number of digits. -/
def readYear (s : List Char) : Option (Int × List Char) :=
  match skipBlanks s with
  | '-' :: rest => (readDigits rest.length rest).map fun read => (-(read.1 : Int), read.2)
  | '+' :: rest => (readDigits rest.length rest).map fun read => ((read.1 : Int), read.2)
  | rest => (readDigits 4 rest).map fun read => ((read.1 : Int), read.2)

def readMark (mark : Char) (s : List Char) : Option (List Char) :=
  match skipBlanks s with
  | c :: rest => if c = mark then some rest else none
  | [] => none

/-- The nanoseconds of a fraction, zero when there is none; digits after the
ninth are skipped. -/
def readFraction : List Char -> Option (Nat × List Char)
  | '.' :: rest =>
      let digits := (rest.take 9).takeWhile Char.isDigit
      (Text.decimal? digits).map fun n =>
        (n * Nat.pow 10 (9 - digits.length), rest.dropWhile Char.isDigit)
  | rest => some (0, rest)

def readOffset : List Char -> Option (Nat × List Char)
  | a :: b :: rest =>
      let start := rest.dropWhile fun c => c = ':' || Text.isBlank c
      match start with
      | c :: d :: more =>
          match Text.digitValue? a, Text.digitValue? b, Text.digitValue? c,
              Text.digitValue? d with
          | some h1, some h2, some m1, some m2 =>
              let minutes := (h1 * 10 + h2) * 60 + m1 * 10 + m2
              if m1 < 6 && minutes < 1440 then some (minutes, more) else none
          | _, _, _, _ => none
      | _ => none
  | _ => none

/-- A zone as the minutes that it is ahead of UTC. -/
def readZone (s : List Char) : Option (Int × List Char) :=
  match skipBlanks s with
  | 'Z' :: rest => some (0, rest)
  | 'z' :: rest => some (0, rest)
  | '+' :: rest => (readOffset rest).map fun read => ((read.1 : Int), read.2)
  | '-' :: rest => (readOffset rest).map fun read => (-(read.1 : Int), read.2)
  | '−' :: rest => (readOffset rest).map fun read => (-(read.1 : Int), read.2)
  | u :: t :: c :: rest =>
      if (u = 'u' || u = 'U') && (t = 't' || t = 'T') && (c = 'c' || c = 'C') then
        some (0, rest)
      else
        none
  | _ => none

def ofChars? (s : List Char) : Option Instant := do
  let (year, s) <- readYear s
  let s <- readMark '-' s
  let (month, s) <- readShort s
  let s <- readMark '-' s
  let (day, s) <- readShort s
  let s <- match s with
    | c :: rest => if c = 'T' || c = 't' || c = ' ' then some rest else none
    | [] => none
  let (hour, s) <- readShort s
  let s <- readMark ':' s
  let (minute, s) <- readShort s
  let s <- readMark ':' s
  let (second, s) <- readShort s
  let (nanos, s) <- readFraction s
  let (offset, s) <- readZone s
  if (skipBlanks s).isEmpty then
    ofLocal? year month day hour minute second nanos offset
  else
    none

def ofText? (s : String) : Option Instant :=
  ofChars? s.toList

end Instant
end Whereabouts
