import Whereabouts.Remote.Host
import Whereabouts.Text.Blank
import Whereabouts.Text.Pieces

/-!
# Request addresses

What a request line says for a URL: its path, in which `.` and `..` segments are
carried out, and its query.
-/

namespace Whereabouts

/-- A URL of the web, without the user it may name. -/
structure Url where
  secure : Bool
  host : UrlHost
  /-- The number of the service, unless it is the usual one. -/
  service : Option Nat
  /-- The segments of the path, without dots. -/
  segments : List (List Char)
  query : Option (List Char)
  /-- What follows a `#`; it is not sent. -/
  fragment : Option (List Char)
  deriving DecidableEq

namespace Url

/-! ## Paths -/

/-- A segment in which an encoded dot counts as a dot. -/
def plainDots : List Char -> List Char
  | '%' :: '2' :: e :: rest =>
      if e = 'e' || e = 'E' then '.' :: plainDots rest else '%' :: '2' :: e :: plainDots rest
  | c :: rest => c :: plainDots rest
  | [] => []

def isHere (segment : List Char) : Bool :=
  plainDots segment = ['.']

def isUp (segment : List Char) : Bool :=
  plainDots segment = ['.', '.']

/-- Whether a segment names a drive, above which there is nothing. -/
def isDrive : List Char -> Bool
  | [letter, mark] => letter.isAlpha && (mark = ':' || mark = '|')
  | _ => false

/-- The segments one level up; `above` has the latest first. -/
def climbed (above : List (List Char)) : List (List Char) :=
  match above with
  | [] => []
  | segment :: rest => if isDrive segment then segment :: rest else rest

/-- The segments with dots carried out; `above` holds the earlier ones, the latest
first.  Dots at the end leave an empty segment. -/
def walk (above : List (List Char)) : List (List Char) -> List (List Char)
  | [] => above.reverse
  | segment :: rest =>
      if isUp segment then
        match rest with
        | [] => ([] :: climbed above).reverse
        | _ => walk (climbed above) rest
      else if isHere segment then
        match rest with
        | [] => ([] :: above).reverse
        | _ => walk above rest
      else
        walk (segment :: above) rest

/-! ## Encoding -/

inductive Part where
  | path
  | query
  | fragment
  deriving DecidableEq

/-- A character that a part cannot hold as it is, apart from controls, blanks and
what is not in ASCII. -/
def Part.excludes (part : Part) (c : Char) : Bool :=
  let marks := match part with
    | .path => ['"', '<', '>', '\x60', '\x7b', '\x7d', '^']
    | .query => ['"', '<', '>', '\'']
    | .fragment => ['"', '<', '>', '\x60']
  marks.contains c

/-- A text with the characters encoded that a part cannot hold. -/
def encoded (part : Part) (s : List Char) : List Char :=
  s.flatMap fun c =>
    if c.toNat < 33 || 126 < c.toNat || part.excludes c then
      (String.utf8EncodeChar c).flatMap Text.percentByte
    else
      [c]

/-! ## Reading -/

/-- A text up to a colon that is not between brackets, and the rest. -/
def splitService (inside : Bool) : List Char -> List Char × List Char
  | [] => ([], [])
  | c :: rest =>
      if c = ':' && !inside then
        ([], c :: rest)
      else
        let (host, after) := splitService (c = '[' || (inside && c != ']')) rest
        (c :: host, after)

/-- The number of the service that follows a host; it may be left out. -/
def service? : List Char -> Option (Option Nat)
  | [] => some none
  | [':'] => some none
  | ':' :: digits => ((Text.decimal? digits).filter fun n => n ≤ 65535).map some
  | _ => none

/-- The number of the service that is meant when none is named. -/
def usualService (secure : Bool) : Nat :=
  if secure then 443 else 80

/-- The host and the service in an authority, which may name a user in front. -/
def endpoint? (authority : List Char) : Option (UrlHost × Option Nat) := do
  let (host, rest) := splitService false ((Text.pieces '@' authority).getLast?.getD [])
  return (<- UrlHost.parse? host, <- service? rest)

/-- The rest of a URL after its scheme and the slashes there, when it is one of
the web. -/
def scheme? (s : List Char) : Option (Bool × List Char) :=
  let head := s.takeWhile fun c => c != ':'
  let scheme := head.map Char.toLower
  match s.drop head.length with
  | ':' :: rest =>
      let after := Text.dropStart (fun c => c = '/' || c = '\\') rest
      if scheme = ['h', 't', 't', 'p'] then some (false, after)
      else if scheme = ['h', 't', 't', 'p', 's'] then some (true, after)
      else none
  | _ => none

/-- What follows the first mark in a text, when it is there. -/
def after? (mark : Char) (s : List Char) : Option (List Char) :=
  match s.dropWhile fun c => c != mark with
  | _ :: rest => some rest
  | [] => none

def parse? (text : String) : Option Url := do
  let isEdge (c : Char) : Bool := c.toNat < 33
  let trimmed := ((text.toList.dropWhile isEdge).reverse.dropWhile isEdge).reverse
  let kept := trimmed.filter fun c => c != '\t' && c != '\n' && c != '\r'
  let (secure, rest) <- scheme? (kept.takeWhile fun c => c != '#')
  let isEnd (c : Char) : Bool := c = '/' || c = '\\' || c = '?'
  let authority := rest.takeWhile fun c => !isEnd c
  let address := rest.drop authority.length
  let path := (address.takeWhile fun c => c != '?').map fun c => if c = '\\' then '/' else c
  let segments := (Text.pieces '/' (path.drop 1)).map (encoded .path)
  let (host, service) <- endpoint? authority
  return {
    secure, host
    service := service.filter fun n => n != usualService secure
    segments := walk [] segments
    query := (after? '?' address).map (encoded .query)
    fragment := (after? '#' kept).map (encoded .fragment) }

/-! ## Requests -/

def withParameters (url : Url) (parameters : List Char) : Url :=
  match url.query with
  | some (c :: query) => { url with query := some (c :: query ++ '&' :: parameters) }
  | _ => { url with query := some parameters }

def path (url : Url) : List Char :=
  '/' :: Text.joined '/' url.segments

/-- Path and query, as a request line has them. -/
def target (url : Url) : String :=
  match url.query with
  | some query => String.ofList (url.path ++ '?' :: query)
  | none => String.ofList url.path

/-- The host, with the number of the service unless it is the usual one. -/
def authority (url : Url) : String :=
  match url.service with
  | some n => String.ofList (url.host.text ++ ':' :: Text.decimal n)
  | none => String.ofList url.host.text

def text (url : Url) : String :=
  let start := (if url.secure then "https://" else "http://") ++ url.authority ++ url.target
  match url.fragment with
  | some fragment => start ++ String.ofList ('#' :: fragment)
  | none => start

/-- The length that a URL must stay below to be requested. -/
def lengthLimit : Nat :=
  65535

/-- Whether a URL can be requested: it is not too long, and its host has none of the
marks that a request cannot name. -/
def isRequestable (url : Url) : Bool :=
  url.text.length < lengthLimit
    && url.host.text.all fun c => c != '"' && c != '\x60' && c != '\x7b' && c != '\x7d'

end Url
end Whereabouts
