import IngressGate.Address
import IngressGate.Bytes
import IngressGate.Frame.Checksum
import IngressGate.Frame.Reader
/-!
# IPv4 packets

`Ipv4.read` reads a header with its options; on any error it leaves the cursor where it was.
`Ipv4.Packet.encode` writes a packet without options, with a correct header checksum.
-/
namespace IngressGate.Ipv4

/-- What an IPv4 header says. Lengths of headers count 32-bit words, as on the wire. -/
structure Header where
  version : UInt8
  headerWords : UInt8
  totalLength : UInt16
  fragmentOffset : UInt16
  timeToLive : UInt8
  protocol : UInt8
  source : Ipv4Address
  destination : Ipv4Address
  deriving DecidableEq, Repr

namespace Header

/-- The number of bytes of the header, options included. -/
def length (h : Header) : Nat := 4 * h.headerWords.toNat

/-- Whether the packet is a fragment that does not start at offset zero. -/
def isLaterFragment (h : Header) : Bool := h.fragmentOffset ≠ 0

end Header

/-- The fields in the first twenty bytes of a header. -/
def Header.ofFixed (b : Vector UInt8 20) : Header where
  version := b[0] >>> 4
  headerWords := b[0] &&& 0x0F
  totalLength := Bytes.u16 b[2] b[3]
  fragmentOffset := Bytes.u16 (b[6] &&& 0x1F) b[7]
  timeToLive := b[8]
  protocol := b[9]
  source := ⟨Bytes.slice b 12 4⟩
  destination := ⟨Bytes.slice b 16 4⟩

/-- Reads a header and moves behind its options. -/
def read : Reader Header := do
  let header := Header.ofFixed (← Reader.peek "ipv4" 20)
  if header.version ≠ 4 then
    Reader.reject (.malformed .ipv4Version)
  else if header.length < 20 then
    Reader.reject (.malformed .ipv4HeaderLength)
  else
    Reader.skip "ipv4" header.length
    return header

/-- A packet to be written. A packet that is no later fragment may not be fragmented on its way. -/
structure Packet where
  fragmentOffset : UInt16 := 0
  timeToLive : UInt8 := 64
  protocol : UInt8 := 0
  source : Ipv4Address := .unspecified
  destination : Ipv4Address := .unspecified
  payload : List UInt8 := []
  deriving DecidableEq, Repr

namespace Packet

/-- The offset in the thirteen bits that the header has for it. -/
def offsetField (p : Packet) : UInt16 := p.fragmentOffset &&& 0x1FFF

/-- The flags and the fragment offset: an unfragmented packet has the flag that forbids it. -/
def flagsField (p : Packet) : UInt16 := if p.offsetField = 0 then 0x4000 else p.offsetField

/-- The header with a given checksum. -/
def header (p : Packet) (check : UInt16) : List UInt8 :=
  [0x45, 0] ++ Bytes.ofU16 (UInt16.ofNat (20 + p.payload.length)) ++ [0, 0] ++
    Bytes.ofU16 p.flagsField ++ [p.timeToLive, p.protocol] ++ Bytes.ofU16 check ++
    p.source.octets.toList ++ p.destination.octets.toList

/-- The bytes of a packet. The checksum is computed with a zero in its own place. -/
def encode (p : Packet) : List UInt8 := p.header (Checksum.checksum (p.header 0)) ++ p.payload

end Packet

end IngressGate.Ipv4
