import Whereabouts.Text.Hexadecimal
import Whereabouts.Text.Unprintable

/-!
# Quoted text

A text between double quotes.  Quotes and backslashes are escaped, and so is
every character that would not show.
-/

namespace Whereabouts
namespace Text

def quotedChar (c : Char) : List Char :=
  if c = '\x00' then ['\\', '0']
  else if c = '\t' then ['\\', 't']
  else if c = '\r' then ['\\', 'r']
  else if c = '\n' then ['\\', 'n']
  else if c = '"' || c = '\\' then ['\\', c]
  else if isUnprintable c then
    ['\\', 'u', '\x7b'] ++ hexadecimal c.toNat ++ ['\x7d']
  else [c]

def quoted (s : String) : String :=
  String.ofList ('"' :: s.toList.flatMap quotedChar ++ ['"'])

end Text
end Whereabouts
