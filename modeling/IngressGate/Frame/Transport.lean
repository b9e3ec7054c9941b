import IngressGate.Bytes
import IngressGate.Frame.Reader
/-!
# TCP segments and UDP datagrams

Readers and writers of the two transport headers. Neither writer computes a checksum.
-/
namespace IngressGate

/-- The source and the destination port, with which both headers start. -/
def portsAt {n : Nat} (b : Vector UInt8 n) (h : 4 ≤ n := by decide) : UInt16 × UInt16 :=
  (Bytes.u16 b[0] b[1], Bytes.u16 b[2] b[3])

namespace Tcp

/-- What a TCP header says. The offset of the data counts 32-bit words. -/
structure Header where
  sourcePort : UInt16
  destinationPort : UInt16
  dataOffset : UInt8
  flags : UInt8
  deriving DecidableEq, Repr

/-- Reads the fixed part of a header. -/
def read : Reader Header := do
  let b ← Reader.take "tcp" 20
  let dataOffset := b[12] >>> 4
  if 4 * dataOffset.toNat < 20 then
    Reader.reject (.malformed .tcpDataOffset)
  else
    let (sourcePort, destinationPort) := portsAt b
    return ⟨sourcePort, destinationPort, dataOffset, b[13]⟩

/-- The flag of a segment that opens a connection. -/
def syn : UInt8 := 0x02

/-- A segment to be written, without options and with the largest window. -/
structure Segment where
  sourcePort : UInt16 := 0
  destinationPort : UInt16 := 0
  flags : UInt8 := syn
  payload : List UInt8 := []
  deriving DecidableEq, Repr

/-- The bytes of a segment. -/
def Segment.encode (s : Segment) : List UInt8 :=
  Bytes.ofU16 s.sourcePort ++ Bytes.ofU16 s.destinationPort ++ List.replicate 8 0 ++
    [0x50, s.flags, 0xFF, 0xFF] ++ List.replicate 4 0 ++ s.payload

end Tcp

namespace Udp

/-- What a UDP header says. -/
structure Header where
  sourcePort : UInt16
  destinationPort : UInt16
  length : UInt16
  deriving DecidableEq, Repr

/-- Reads a header. -/
def read : Reader Header := do
  let b ← Reader.take "udp" 8
  let (sourcePort, destinationPort) := portsAt b
  return ⟨sourcePort, destinationPort, Bytes.u16 b[4] b[5]⟩

/-- A datagram to be written. -/
structure Datagram where
  sourcePort : UInt16 := 0
  destinationPort : UInt16 := 0
  payload : List UInt8 := []
  deriving DecidableEq, Repr

/-- The bytes of a datagram. -/
def Datagram.encode (d : Datagram) : List UInt8 :=
  Bytes.ofU16 d.sourcePort ++ Bytes.ofU16 d.destinationPort ++
    Bytes.ofU16 (UInt16.ofNat (8 + d.payload.length)) ++ [0, 0] ++ d.payload

end Udp

end IngressGate
