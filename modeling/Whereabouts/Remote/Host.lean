import Whereabouts.Domain.Name
import Whereabouts.Text.Decimal
import Whereabouts.Text.Percent

/-!
# Hosts

What a URL can name as its host: a domain, or an address of the internet in one of
its two forms.  A domain whose last label is a number is taken for an address.
-/

namespace Whereabouts

inductive UrlHost where
  | domain (name : List Char)
  /-- An address of four bytes. -/
  | ipv4 (address : Nat)
  /-- An address of eight groups of two bytes. -/
  | ipv6 (groups : List Nat)
  deriving DecidableEq, Inhabited, Repr

namespace UrlHost

/-! ## Addresses of four bytes -/

def ofDigits? (base : Nat) (s : List Char) : Option Nat :=
  s.foldlM (fun n c => match Text.hexValue? c with
    | some d => if d < base then some (n * base + d) else none
    | none => none) 0

/-- A number in base 16 after `0x`, in base 8 after `0`, and else in base 10. -/
def number? : List Char -> Option Nat
  | [] => none
  | '0' :: 'x' :: digits => ofDigits? 16 digits
  | '0' :: 'X' :: digits => ofDigits? 16 digits
  | '0' :: d :: digits => ofDigits? 8 (d :: digits)
  | digits => ofDigits? 10 digits

/-- The labels of a name without an empty one at the end. -/
def withoutEnd (labels : List (List Char)) : List (List Char) :=
  if labels.getLast? = some [] then labels.dropLast else labels

/-- Whether a name is meant as an address: its last label is a number. -/
def endsInNumber (labels : List (List Char)) : Bool :=
  match (withoutEnd labels).getLast? with
  | some label => (!label.isEmpty && label.all Char.isDigit) || (number? label).isSome
  | none => false

/-- The address of at most four numbers: one byte each, except that the last stands
for all bytes that are left. -/
def ofNumbers? (numbers : List Nat) : Option Nat :=
  match numbers.reverse with
  | [] => none
  | last :: before =>
      let bytes := before.reverse
      if bytes.length < 4 && bytes.all (fun n => n < 256)
          && last < Nat.pow 256 (4 - bytes.length) then
        let upper := bytes.foldl (fun n byte => n * 256 + byte) 0
        some (upper * Nat.pow 256 (4 - bytes.length) + last)
      else
        none

def ipv4? (labels : List (List Char)) : Option Nat :=
  ((withoutEnd labels).mapM number?).bind ofNumbers?

def bytesOf (address : Nat) : List Nat :=
  [address / Nat.pow 256 3, address / Nat.pow 256 2 % 256, address / 256 % 256,
    address % 256]

/-! ## Addresses of eight groups -/

/-- A group: one to four hexadecimal digits. -/
def group? (s : List Char) : Option Nat :=
  if 1 ≤ s.length && s.length ≤ 4 then Text.hexFrom? 0 s else none

/-- A byte in decimal digits, without zeros in front. -/
def byte? (s : List Char) : Option Nat :=
  match s with
  | '0' :: _ :: _ => none
  | _ => (Text.decimal? s).filter fun n => n < 256

/-- The two groups of an address of four bytes at the end of a longer one. -/
def embedded? (s : List Char) : Option (List Nat) :=
  match (Text.pieces '.' s).mapM byte? with
  | some [a, b, c, d] => some [a * 256 + b, c * 256 + d]
  | _ => none

/-- Groups with colons between them; an address of four bytes may be the last. -/
def groups? (final : Bool) (s : List Char) : Option (List Nat) :=
  if s.isEmpty then
    some []
  else
    let parts := Text.pieces ':' s
    let last := parts.getLast?.getD []
    if final && last.contains '.' then do
      let groups <- parts.dropLast.mapM group?
      return groups ++ (<- embedded? last)
    else
      parts.mapM group?

/-- The text before the first double colon and the text after it. -/
def splitGap : List Char -> Option (List Char × List Char)
  | ':' :: ':' :: rest => some ([], rest)
  | c :: rest => (splitGap rest).map fun split => (c :: split.1, split.2)
  | [] => none

/-- The groups of an address; a double colon stands for at least one group of
zeros. -/
def ipv6? (s : List Char) : Option (List Nat) :=
  match splitGap s with
  | some (before, after) => do
      let front <- groups? false before
      let back <- groups? true after
      let count := front.length + back.length
      if count < 8 then return front ++ List.replicate (8 - count) 0 ++ back else none
  | none => do
      let groups <- groups? true s
      if groups.length = 8 then return groups else none

/-! ## Hosts -/

def isForbidden (c : Char) : Bool :=
  c.toNat ≤ 32 || c.toNat = 127
    || ['#', '%', '/', ':', '<', '>', '?', '@', '[', '\\', ']', '^', '|'].contains c

/-- The host that a text names, in which bytes may be percent-encoded. -/
def parse? (s : List Char) : Option UrlHost :=
  match s with
  | '[' :: rest =>
      if rest.getLast? = some ']' then (ipv6? rest.dropLast).map .ipv6 else none
  | _ => do
      let text <- String.fromUTF8? ⟨(Text.percentBytes s).toArray⟩
      let name <- Domain.ascii? text.toList
      if name.isEmpty || name.any isForbidden then
        none
      else
        let labels := Text.pieces '.' name
        if endsInNumber labels then (ipv4? labels).map .ipv4 else some (.domain name)

/-- The first longest row of at least two zeros in groups, as the groups before it
and after it. -/
def longestGap? (groups : List Nat) : Option (List Nat × List Nat) :=
  let gapAt (start : Nat) : Nat := ((groups.drop start).takeWhile fun n => n = 0).length
  let best := (List.range groups.length).foldl
    (fun best start => if gapAt best < gapAt start then start else best) 0
  if 2 ≤ gapAt best then some (groups.take best, groups.drop (best + gapAt best)) else none

def groupsText (groups : List Nat) : List Char :=
  Text.joined ':' (groups.map (Nat.toDigits 16))

def text : UrlHost -> List Char
  | .domain name => name
  | .ipv4 address => Text.joined '.' ((bytesOf address).map Text.decimal)
  | .ipv6 groups =>
      let inner := match longestGap? groups with
        | some (before, after) => groupsText before ++ [':', ':'] ++ groupsText after
        | none => groupsText groups
      '[' :: inner ++ [']']

end UrlHost
end Whereabouts
