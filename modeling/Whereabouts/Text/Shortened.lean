/-!
# Shortened messages

A message for one line: control characters are left out, and what exceeds the
limit is replaced by an ellipsis.
-/

namespace Whereabouts
namespace Text

/-- The characters of the Unicode category `Cc`. -/
def isControl (c : Char) : Bool :=
  c.toNat < 32 || (127 ≤ c.toNat && c.toNat ≤ 159)

/-- At most `limit` characters of the text, without its control characters; an
ellipsis follows when some were cut off. -/
def shortenedChars (limit : Nat) (s : List Char) : List Char :=
  let clean := s.filter (fun c => !isControl c)
  if limit < clean.length then clean.take limit ++ ['…'] else clean

def shortened (limit : Nat) (s : String) : String :=
  String.ofList (shortenedChars limit s.toList)

end Text
end Whereabouts
