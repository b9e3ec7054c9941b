import IngressGate.Bytes
/-!
# The Internet checksum

The sum of the 16-bit words of a message, in a 32-bit register that wraps, folded to 16 bits by
adding the carries back in and then complemented. An odd last byte is the high half of a word.
-/
namespace IngressGate.Checksum

/-- The 16-bit words of a message. -/
def words : List UInt8 → List UInt16
  | hi :: lo :: bs => Bytes.u16 hi lo :: words bs
  | [hi] => [Bytes.u16 hi 0]
  | [] => []

/-- Adds the words in a 32-bit register. -/
def sum (data : List UInt8) : UInt32 := (words data).foldl (fun s w => s + w.toUInt32) 0

/-- Adds the carries above 16 bits back in until none is left. -/
def fold (n : Nat) : Nat :=
  if h : n < 65536 then n else fold (n % 65536 + n / 65536)
termination_by n
decreasing_by omega

/-- The checksum of a message. -/
def checksum (data : List UInt8) : UInt16 := UInt16.ofNat (65535 - fold (sum data).toNat)

end IngressGate.Checksum
