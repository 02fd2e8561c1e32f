import SplitBoard.Text.Hexadecimal
import SplitBoard.Text.Printable

/-!
# Quoted text

How messages show a text that a user typed: between double quotes, with everything that would be
misread or not be seen at all written as an escape.
-/

namespace SplitBoard.Text

/-- One character inside quotes. -/
def escape (c : Char) : String :=
  if c = '"' then "\\\""
  else if c = '\\' then "\\\\"
  else if c = '\n' then "\\n"
  else if c = '\r' then "\\r"
  else if c = '\t' then "\\t"
  else if c = Char.ofNat 0 then "\\0"
  else if isPrintable c then c.toString
  else "\\u\x7b" ++ lowerHex c.toNat ++ "\x7d"

/-- The text between double quotes. -/
def quoted (text : String) : String :=
  "\"" ++ String.join (text.toList.map escape) ++ "\""

end SplitBoard.Text
