import IngressGate.Address
import IngressGate.Bytes
import IngressGate.Frame.Protocol
import IngressGate.Frame.Reader
/-!
# Ethernet frames

`Ethernet.read` reads the 14-byte header and, behind the outer type `0x8100`, one 802.1Q tag; a
second tag is left as the type of the payload. `Ethernet.Frame.encode` writes a frame.
-/
namespace IngressGate

/-- The control value of an 802.1Q tag. -/
structure VlanTag where
  control : UInt16
  deriving DecidableEq, Repr

namespace VlanTag

/-- The tag of a VLAN with priority zero; an id has twelve bits. -/
def ofId (id : UInt16) : VlanTag := ⟨id &&& 0x0FFF⟩

/-- The VLAN of a tag. -/
def id (t : VlanTag) : UInt16 := t.control &&& 0x0FFF

/-- The priority of a tag, in its top three bits. -/
def priority (t : VlanTag) : UInt16 := t.control >>> 13

end VlanTag

namespace Ethernet

/-- The largest frame that a receive buffer holds: header, tag, 1500 bytes and a check sequence. -/
def maxFrameSize : Nat := 1522

/-- What the header of a frame says. `etherType` is the type behind the tag, if there is one. -/
structure Header where
  destination : MacAddress
  source : MacAddress
  tag : Option VlanTag
  etherType : UInt16
  deriving DecidableEq, Repr

/-- Reads the header of a frame. -/
def read : Reader Header := do
  let fixed ← Reader.take "ethernet" 14
  let destination := MacAddress.mk (Bytes.slice fixed 0 6)
  let source := MacAddress.mk (Bytes.slice fixed 6 6)
  let outer := Bytes.u16 fixed[12] fixed[13]
  if outer = EtherType.vlan.code then
    let inner ← Reader.take "vlan" 4
    let tag := VlanTag.mk (Bytes.u16 inner[0] inner[1])
    return ⟨destination, source, some tag, Bytes.u16 inner[2] inner[3]⟩
  else
    return ⟨destination, source, none, outer⟩

/-- A frame to be written. -/
structure Frame where
  destination : MacAddress := .broadcast
  source : MacAddress := .zero
  tag : Option VlanTag := none
  etherType : UInt16 := EtherType.ipv4.code
  payload : List UInt8 := []
  deriving DecidableEq, Repr

/-- The bytes of a tag, its own type included. -/
def encodeTag : Option VlanTag → List UInt8
  | some tag => Bytes.ofU16 EtherType.vlan.code ++ Bytes.ofU16 tag.control
  | none => []

/-- The bytes of a frame. -/
def Frame.encode (f : Frame) : List UInt8 :=
  f.destination.octets.toList ++ f.source.octets.toList ++ encodeTag f.tag ++
    Bytes.ofU16 f.etherType ++ f.payload

end Ethernet

end IngressGate
