import IngressGate.Text.Case
import IngressGate.Text.LetterData
/-!
# Letters and numbers

The characters with the Alphabetic property of the Unicode standard, and those of its three
categories of numbers.
-/
namespace IngressGate.Text

/-- Whether a character is a letter. -/
def isLetter (c : Char) : Bool :=
  if c.toNat < 0x80 then c.isAlpha else inRanges letterRanges c.toNat

/-- Whether a character writes a number. -/
def isNumber (c : Char) : Bool :=
  if c.toNat < 0x80 then c.isDigit else inRanges numberRanges c.toNat

end IngressGate.Text
