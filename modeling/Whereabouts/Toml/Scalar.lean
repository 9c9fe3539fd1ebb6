import Whereabouts.Double
import Whereabouts.Instant.Basic
import Whereabouts.Json.Basic
import Whereabouts.Text.Decimal
import Whereabouts.Text.Hexadecimal

/-!
# TOML scalars

Strings, numbers, dates and keys, each read off the front of a text.
-/

namespace Whereabouts
namespace Toml

def isBlank (c : Char) : Bool :=
  c = ' ' || c = '\t'

def skipBlanks (s : List Char) : List Char :=
  s.dropWhile isBlank

def lineBreak? : List Char -> Option (List Char)
  | '\n' :: rest => some rest
  | '\r' :: '\n' :: rest => some rest
  | _ => none

/-- A character that may stand in comments and strings. -/
def isPlain (c : Char) : Bool :=
  c = '\t' || (32 ≤ c.toNat && c.toNat != 127)

/-! ## Strings -/

def codePoint? (digits : List Char) : Option Char :=
  match Text.hexFrom? 0 digits with
  | some n => if n < 0xD800 || (0xDFFF < n && n < 0x110000) then some (Char.ofNat n) else none
  | none => none

def escape? : List Char -> Option (Char × List Char)
  | 'b' :: rest => some ('\x08', rest)
  | 't' :: rest => some ('\t', rest)
  | 'n' :: rest => some ('\n', rest)
  | 'f' :: rest => some ('\x0c', rest)
  | 'r' :: rest => some ('\r', rest)
  | '"' :: rest => some ('"', rest)
  | '\\' :: rest => some ('\\', rest)
  | 'u' :: rest =>
      if rest.length < 4 then none
      else (codePoint? (rest.take 4)).map (·, rest.drop 4)
  | 'U' :: rest =>
      if rest.length < 8 then none
      else (codePoint? (rest.take 8)).map (·, rest.drop 8)
  | _ => none

def readLineString (quote : Char) : Nat -> List Char -> List Char ->
    Option (List Char × List Char)
  | 0, _, _ => none
  | _ + 1, _, [] => none
  | fuel + 1, acc, c :: rest =>
      if c = quote then
        some (acc.reverse, rest)
      else if c = '\\' && quote = '"' then
        match escape? rest with
        | some (d, more) => readLineString quote fuel (d :: acc) more
        | none => none
      else if isPlain c then
        readLineString quote fuel (c :: acc) rest
      else
        none

def skipBreaks : List Char -> List Char
  | ' ' :: rest => skipBreaks rest
  | '\t' :: rest => skipBreaks rest
  | '\n' :: rest => skipBreaks rest
  | '\r' :: '\n' :: rest => skipBreaks rest
  | rest => rest

/-- The text after an escaped line break and all blanks and line breaks behind
it, when there is one. -/
def escapedBreak? (s : List Char) : Option (List Char) :=
  (lineBreak? (skipBlanks s)).map skipBreaks

/-- The rest of a string of several lines, after its opening quotes.  Up to two
more quotes may stand before the closing ones. -/
def readTextString (quote : Char) : Nat -> List Char -> List Char ->
    Option (List Char × List Char)
  | 0, _, _ => none
  | _ + 1, _, [] => none
  | fuel + 1, acc, c :: rest =>
      if c = quote then
        let more := rest.takeWhile fun d => d = quote
        let count := more.length + 1
        if count < 3 then
          readTextString quote fuel (c :: acc) rest
        else
          let extra := min (count - 3) 2
          some ((List.replicate extra quote ++ acc).reverse, rest.drop (extra + 2))
      else if c = '\\' && quote = '"' then
        match escapedBreak? rest with
        | some after => readTextString quote fuel acc after
        | none =>
            match escape? rest with
            | some (d, after) => readTextString quote fuel (d :: acc) after
            | none => none
      else
        match lineBreak? (c :: rest) with
        | some after => readTextString quote fuel ('\n' :: acc) after
        | none => if isPlain c then readTextString quote fuel (c :: acc) rest else none

def readString (s : List Char) : Option (List Char × List Char) :=
  match s with
  | q :: q' :: q'' :: rest =>
      if (q = '"' || q = '\'') && q' = q && q'' = q then
        readTextString q (s.length + 1) [] ((lineBreak? rest).getD rest)
      else if q = '"' || q = '\'' then
        readLineString q (s.length + 1) [] (q' :: q'' :: rest)
      else
        none
  | q :: rest =>
      if q = '"' || q = '\'' then readLineString q (s.length + 1) [] rest else none
  | [] => none

/-! ## Keys -/

def isKeyChar (c : Char) : Bool :=
  c.isAlphanum || c = '-' || c = '_'

/-- One key: bare, or a string of one line. -/
def readKey (s : List Char) : Option (String × List Char) :=
  match s with
  | '"' :: rest => (readLineString '"' (s.length + 1) [] rest).map fun read =>
      (String.ofList read.1, read.2)
  | '\'' :: rest => (readLineString '\'' (s.length + 1) [] rest).map fun read =>
      (String.ofList read.1, read.2)
  | _ =>
      let key := s.takeWhile isKeyChar
      if key.isEmpty then none else some (String.ofList key, s.drop key.length)

/-- Keys with dots between them, with blanks around each of them. -/
def readPath : Nat -> List Char -> Option (List String × List Char)
  | 0, _ => none
  | depth + 1, s =>
      match readKey (skipBlanks s) with
      | none => none
      | some (key, rest) =>
          match skipBlanks rest with
          | '.' :: more => (readPath depth more).map fun read => (key :: read.1, read.2)
          | after => some ([key], after)

/-! ## Numbers -/

/-- The digits that a text starts with, with single underscores between them, and
the rest. -/
def readDigits (isDigit : Char -> Bool) : List Char -> Option (List Char × List Char)
  | [] => none
  | c :: rest =>
      if isDigit c then
        match rest with
        | '_' :: more => (readDigits isDigit more).map fun read => (c :: read.1, read.2)
        | d :: more =>
            if isDigit d then
              (readDigits isDigit (d :: more)).map fun read => (c :: read.1, read.2)
            else
              some ([c], d :: more)
        | [] => some ([c], [])
      else
        none

/-- Whole digits of a decimal number: zero alone, or no zero in front. -/
def readWhole (s : List Char) : Option (List Char × List Char) :=
  match s with
  | '0' :: rest => some (['0'], rest)
  | _ => readDigits Char.isDigit s

def int64? (n : Int) : Option Json :=
  if Int64.minValue.toInt ≤ n ∧ n ≤ Int64.maxValue.toInt then some (.int n) else none

/-- A number in base 16, 8 or 2 after the letter of its base. -/
def readBased (base : Nat) (s : List Char) : Option (Json × List Char) :=
  let isDigit (c : Char) : Bool := match Text.hexValue? c with
    | some d => d < base
    | none => false
  match readDigits isDigit s with
  | none => none
  | some (digits, rest) =>
      let n := digits.foldl (fun n c => n * base + (Text.hexValue? c).getD 0) 0
      (int64? n).map (·, rest)

def readExponent (s : List Char) : Option (Option Int × List Char) :=
  match s with
  | c :: rest =>
      if c = 'e' || c = 'E' then
        let (negative, digits) := match rest with
          | '+' :: more => (false, more)
          | '-' :: more => (true, more)
          | _ => (false, rest)
        (readDigits Char.isDigit digits).map fun read =>
          let n : Int := (Text.decimalFrom? 0 read.1).getD 0
          (some (if negative then -n else n), read.2)
      else
        some (none, s)
  | [] => some (none, [])

/-- A number with a fraction or an exponent, kept without its value.  It may not be
too large, while it may be too small or too far below zero. -/
def real? (negative : Bool) (digits fraction : List Char) (exponent : Int) :
    Option Json :=
  let n := (Text.decimalFrom? 0 (digits ++ fraction)).getD 0
  if negative || Double.isFinite n (exponent - fraction.length) then some (.real []) else none

/-- A number without a base.  Infinities and what is no number are kept without
their value too. -/
def readDecimal (s : List Char) : Option (Json × List Char) :=
  let (negative, signed, body) := match s with
    | '-' :: rest => (true, true, rest)
    | '+' :: rest => (false, true, rest)
    | _ => (false, false, s)
  match body with
  | 'i' :: 'n' :: 'f' :: rest => some (.real [], rest)
  | 'n' :: 'a' :: 'n' :: rest => some (.real [], rest)
  | '0' :: 'x' :: rest => if signed then none else readBased 16 rest
  | '0' :: 'o' :: rest => if signed then none else readBased 8 rest
  | '0' :: 'b' :: rest => if signed then none else readBased 2 rest
  | _ =>
      match readWhole body with
      | none => none
      | some (digits, rest) =>
          match rest with
          | '.' :: more =>
              match readDigits Char.isDigit more with
              | none => none
              | some (fraction, after) =>
                  match readExponent after with
                  | none => none
                  | some (exponent, after) =>
                      (real? negative digits fraction (exponent.getD 0)).map (·, after)
          | _ =>
              match readExponent rest with
              | none => none
              | some (some exponent, after) =>
                  (real? negative digits [] exponent).map (·, after)
              | some (none, after) =>
                  let n : Int := (Text.decimalFrom? 0 digits).getD 0
                  (int64? (if negative then -n else n)).map (·, after)

/-! ## Dates and times -/

/-- A number of exactly `width` digits between two bounds. -/
def readField (width low high : Nat) (s : List Char) : Option (Nat × List Char) :=
  match Text.decimal? (s.take width) with
  | some n =>
      if (s.take width).length = width && low ≤ n && n ≤ high then some (n, s.drop width)
      else none
  | none => none

def skipChar (c : Char) : List Char -> Option (List Char)
  | d :: rest => if c = d then some rest else none
  | [] => none

def skipTime (s : List Char) : Option (List Char) := do
  let (_, s) <- readField 2 0 23 s
  let s <- skipChar ':' s
  let (_, s) <- readField 2 0 59 s
  let s <- skipChar ':' s
  let (_, s) <- readField 2 0 60 s
  match s with
  | '.' :: rest =>
      let digits := rest.takeWhile Char.isDigit
      if digits.isEmpty then none else some (rest.drop digits.length)
  | _ => some s

def skipOffset (s : List Char) : Option (List Char) :=
  match s with
  | 'Z' :: rest => some rest
  | 'z' :: rest => some rest
  | c :: rest =>
      if c = '+' || c = '-' then do
        let (_, s) <- readField 2 0 23 rest
        let s <- skipChar ':' s
        let (_, s) <- readField 2 0 59 s
        return s
      else
        some s
  | [] => some []

def skipDate (s : List Char) : Option (List Char) := do
  let (year, s) <- readField 4 0 9999 s
  let s <- skipChar '-' s
  let (month, s) <- readField 2 1 12 s
  let s <- skipChar '-' s
  let (_, s) <- readField 2 1 (Calendar.daysIn year month) s
  return s

def startsDate (s : List Char) : Bool :=
  let digits := s.takeWhile Char.isDigit
  match s.drop digits.length with
  | '-' :: _ => digits.length = 4
  | ':' :: _ => digits.length = 2
  | _ => false

/-- What a date or a time is kept as: a table with one nameless member, because it
may stand where a table is wanted and nowhere else. -/
def moment : Json :=
  .obj [("", .null)]

/-- A date, a time or both, kept without its value. -/
def readDate (s : List Char) : Option (Json × List Char) :=
  match (s.drop 2).head? with
  | some ':' => (skipTime s).map fun rest => (moment, rest)
  | _ =>
      match skipDate s with
      | none => none
      | some rest =>
          match rest with
          | c :: more =>
              let digit := (more.head?.map Char.isDigit).getD false
              if c = 'T' || c = 't' || (c = ' ' && digit) then
                ((skipTime more).bind skipOffset).map fun after => (moment, after)
              else
                some (moment, rest)
          | [] => some (moment, [])

end Toml
end Whereabouts
