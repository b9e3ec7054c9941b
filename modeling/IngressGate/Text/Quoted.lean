import IngressGate.Text.Case
import IngressGate.Text.Digits
import IngressGate.Text.ShapeData
/-!
# Quoted text

`quoted` writes a text between double quotes so that it shows on one line: quotes and backslashes
get a backslash, and whatever has no shape of its own is written as an escape.
-/
namespace IngressGate.Text

/-- How a character is written inside a quoted text. -/
def quotedChar (c : Char) : String :=
  if c = '"' then "\\\""
  else if c = '\\' then "\\\\"
  else if c = '\n' then "\\n"
  else if c = '\r' then "\\r"
  else if c = '\t' then "\\t"
  else if c.toNat = 0 then "\\0"
  else if c.toNat < 0x20 || inRanges shapelessRanges c.toNat then
    "\\u\x7b" ++ hex c.toNat ++ "\x7d"
  else c.toString

/-- The quoted form of a text. -/
def quoted (s : String) : String := "\"" ++ String.join (s.toList.map quotedChar) ++ "\""

end IngressGate.Text
