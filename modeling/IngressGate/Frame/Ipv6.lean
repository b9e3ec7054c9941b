import IngressGate.Address
import IngressGate.Bytes
import IngressGate.Frame.Reader
/-!
# IPv6 packets

`Ipv6.read` reads the base header and follows its chain of extension headers, of which it accepts
at most six, to the upper-layer protocol. `Ipv6.Packet.encode` writes a packet without extensions.
-/
namespace IngressGate.Ipv6

/-- The kinds of header that a chain can name next. -/
inductive Link
  /-- The upper-layer protocol, where the chain ends. -/
  | upperLayer
  /-- A header that counts its length in 8-byte units, the first not counted. -/
  | options
  /-- An authentication header, which counts 4-byte units, the first two not counted. -/
  | authentication
  /-- A fragment header, of 8 bytes. -/
  | fragment
  /-- A header that is not read. -/
  | unsupported
  deriving DecidableEq, Repr

/-- The kind of a header number. -/
def Link.ofType (type : UInt8) : Link :=
  if type = 0 ∨ type = 43 ∨ type = 60 then options
  else if type = 51 then authentication
  else if type = 44 then fragment
  else if type = 135 ∨ type = 139 ∨ type = 140 ∨ type = 253 ∨ type = 254 then unsupported
  else upperLayer

/-- How many extension headers a chain may have. -/
def maxExtensions : Nat := 6

/-- What an IPv6 base header says. -/
structure Header where
  version : UInt8
  payloadLength : UInt16
  nextHeader : UInt8
  hopLimit : UInt8
  source : Ipv6Address
  destination : Ipv6Address
  deriving DecidableEq, Repr

/-- The fields of the forty bytes of a base header. -/
def Header.ofFixed (b : Vector UInt8 40) : Header where
  version := b[0] >>> 4
  payloadLength := Bytes.u16 b[4] b[5]
  nextHeader := b[6]
  hopLimit := b[7]
  source := ⟨Bytes.slice b 8 16⟩
  destination := ⟨Bytes.slice b 24 16⟩

/-- What follows from a whole chain: the upper-layer protocol, the number of extension headers and
whether one of them marks a fragment that does not start at offset zero. -/
structure Chain where
  protocol : UInt8
  extensions : Nat
  laterFragment : Bool
  deriving DecidableEq, Repr

namespace Chain

/-- Reads a fragment header: the type of the next header and whether the offset is not zero. -/
def readFragment : Reader (UInt8 × Bool) := do
  let b ← Reader.take "ipv6 fragment" 8
  return (b[0], (Bytes.u16 b[2] b[3]) >>> 3 ≠ 0)

/-- Reads an extension header whose length is in its second byte: the type of the next header. -/
def readSized (length : UInt8 → Nat) : Reader UInt8 := do
  let b ← Reader.peek "ipv6 extension" 2
  Reader.skip "ipv6 extension" (length b[1])
  return b[0]

/-- The number of bytes of an options or routing header with a given length byte. -/
def optionsLength (n : UInt8) : Nat := (n.toNat + 1) * 8

/-- The number of bytes of an authentication header with a given length byte. -/
def authenticationLength (n : UInt8) : Nat := (n.toNat + 2) * 4

/-- Follows a chain from a header of the given type, of which at most `budget` more may be
extension headers; `seen` is what the chain has shown so far. -/
def read : (budget : Nat) → (type : UInt8) → (seen : Chain) → Reader Chain
  | budget, type, seen =>
    match budget, Link.ofType type with
    | _, .upperLayer => return { seen with protocol := type }
    | _, .unsupported => Reader.reject (.unsupportedExtension type)
    | 0, _ => Reader.reject (.unsupportedExtension type)
    | budget + 1, .fragment => do
      let (next, later) ← readFragment
      let laterFragment := seen.laterFragment || later
      read budget next { seen with extensions := seen.extensions + 1, laterFragment }
    | budget + 1, .options => do
      let next ← readSized optionsLength
      read budget next { seen with extensions := seen.extensions + 1 }
    | budget + 1, .authentication => do
      let next ← readSized authenticationLength
      read budget next { seen with extensions := seen.extensions + 1 }

end Chain

/-- A base header and what its chain resolves to. -/
structure Resolved where
  header : Header
  chain : Chain
  deriving DecidableEq, Repr

/-- Reads a base header and its chain. -/
def read : Reader Resolved := do
  let header := Header.ofFixed (← Reader.take "ipv6" 40)
  if header.version ≠ 6 then
    Reader.reject (.malformed .ipv6Version)
  else
    return ⟨header, ← Chain.read maxExtensions header.nextHeader ⟨header.nextHeader, 0, false⟩⟩

/-- A packet to be written. -/
structure Packet where
  nextHeader : UInt8 := 0
  hopLimit : UInt8 := 64
  source : Ipv6Address := .unspecified
  destination : Ipv6Address := .unspecified
  payload : List UInt8 := []
  deriving DecidableEq, Repr

/-- The bytes of a packet. -/
def Packet.encode (p : Packet) : List UInt8 :=
  [0x60, 0, 0, 0] ++ Bytes.ofU16 (UInt16.ofNat p.payload.length) ++ [p.nextHeader, p.hopLimit] ++
    p.source.octets.toList ++ p.destination.octets.toList ++ p.payload

end IngressGate.Ipv6
