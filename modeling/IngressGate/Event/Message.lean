import IngressGate.Bytes
/-!
# Message fields

A message is stored in 64 bytes, of which the last is always zero. Text is written into it part by
part; a part that does not fit is cut after its last character that fits whole.
-/
namespace IngressGate.Message

/-- The size of the field. -/
def size : Nat := 64

/-- The bytes of a character. -/
def charBytes (c : Char) : List UInt8 := (String.utf8EncodeChar c)

/-- The bytes of the characters of `cs` that fit whole into `room` bytes, up to the first that does
not. -/
def fitting : (room : Nat) → (cs : List Char) → List UInt8
  | _, [] => []
  | room, c :: cs =>
    if c.utf8Size ≤ room then charBytes c ++ fitting (room - c.utf8Size) cs else []

/-- What the field holds after one more part. -/
def append (written : List UInt8) (part : String) : List UInt8 :=
  written ++ fitting (size - 1 - written.length) part.toList

/-- The field after writing the parts into it in order. -/
def ofParts (parts : List String) : Vector UInt8 size :=
  Bytes.padded size (parts.foldl append [])

/-- The text of a field: what stands before the first zero byte, or nothing if that is not valid
UTF-8. -/
def text (field : Vector UInt8 size) : String :=
  (String.fromUTF8? ⟨(field.toList.takeWhile (· ≠ 0)).toArray⟩).getD ""

end IngressGate.Message
