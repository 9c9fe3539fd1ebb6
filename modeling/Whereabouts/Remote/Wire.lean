import Whereabouts.Remote.Gateway
import Whereabouts.Text.Blank

/-!
# Requests and responses on the wire

The text of a request of HTTP/1.1, and the reply that the bytes of a closed
connection hold.
-/

namespace Whereabouts
namespace Wire

def service (url : Url) : Nat :=
  url.service.getD (Url.usualService url.secure)

/-- The text of a request, which asks to close the connection afterwards. -/
def requestText (request : Request) : String :=
  "GET " ++ request.url.target ++ " HTTP/1.1\r\nHost: " ++ request.url.authority
    ++ "\r\nX-Tapis-Token: " ++ request.token ++ "\r\nAccept: */*\r\nConnection: close\r\n\r\n"

/-- The lines before the first empty one, as text, and the bytes after it. -/
def splitHead (line : List Char) : List UInt8 -> Option (List String × List UInt8)
  | [] => none
  | 13 :: 10 :: rest =>
      if line.isEmpty then
        some ([], rest)
      else
        (splitHead [] rest).map fun split => (String.ofList line.reverse :: split.1, split.2)
  | b :: rest => splitHead (Char.ofNat b.toNat :: line) rest

/-- The value of a header field, trimmed, under its name in small letters. -/
def field? (lines : List String) (name : String) : Option String :=
  lines.findSome? fun line =>
    let key := line.toList.takeWhile fun c => c != ':'
    if String.ofList (key.map Char.toLower) == name then
      some (Text.trim (String.ofList (line.toList.drop (key.length + 1))))
    else
      none

def status? (line : String) : Option Nat :=
  match Text.pieces ' ' line.toList with
  | _ :: code :: _ => Text.decimal? code
  | _ => none

/-- The bytes of a body in chunks, each after a line with its size. -/
def unchunked : Nat -> List UInt8 -> Option (List UInt8)
  | 0, _ => none
  | fuel + 1, bytes =>
      let digits := bytes.takeWhile fun b => (Text.hexValue? (Char.ofNat b.toNat)).isSome
      let chars := digits.map fun b => Char.ofNat b.toNat
      match Text.hexFrom? 0 chars, (bytes.dropWhile fun b => b != 10).drop 1 with
      | some 0, _ => if digits.isEmpty then none else some []
      | some size, rest =>
          if rest.length < size then none
          else (unchunked fuel (rest.drop (size + 2))).map (rest.take size ++ ·)
      | none, _ => none

def body? (lines : List String) (bytes : List UInt8) : Option (List UInt8) :=
  if field? lines "transfer-encoding" = some "chunked" then
    unchunked (bytes.length + 1) bytes
  else
    match (field? lines "content-length").bind fun n => Text.decimal? n.toList with
    | some size => if bytes.length < size then none else some (bytes.take size)
    | none => some bytes

/-- The reply that the bytes of a connection hold. -/
def reply (bytes : List UInt8) : Reply :=
  match splitHead [] bytes with
  | some (first :: lines, rest) =>
      match status? first, body? lines rest with
      | some status, some body =>
          .response status ((String.fromUTF8? ⟨body.toArray⟩).getD "\x00")
      | _, _ => .dropped
  | _ => .dropped

end Wire
end Whereabouts
