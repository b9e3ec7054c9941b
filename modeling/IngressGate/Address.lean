/-!
# Internet and hardware addresses

An address is its octets in network order.
-/
namespace IngressGate

/-- A 48-bit hardware address. -/
structure MacAddress where
  octets : Vector UInt8 6
  deriving DecidableEq, Repr

/-- A 32-bit internet address. -/
structure Ipv4Address where
  octets : Vector UInt8 4
  deriving DecidableEq, Repr

/-- A 128-bit internet address. -/
structure Ipv6Address where
  octets : Vector UInt8 16
  deriving DecidableEq, Repr

/-- An internet address of either family. -/
inductive Address
  | v4 (address : Ipv4Address)
  | v6 (address : Ipv6Address)
  deriving DecidableEq, Repr

namespace MacAddress

/-- The address of every station, all ones. -/
def broadcast : MacAddress := ⟨Vector.replicate 6 0xFF⟩

/-- The address with only zero bits. -/
def zero : MacAddress := ⟨Vector.replicate 6 0⟩

end MacAddress

namespace Ipv4Address

/-- The address written `a.b.c.d`. -/
def ofBytes (a b c d : UInt8) : Ipv4Address := ⟨#v[a, b, c, d]⟩

/-- The address `0.0.0.0`. -/
def unspecified : Ipv4Address := ofBytes 0 0 0 0

end Ipv4Address

namespace Ipv6Address

/-- The address with the given eight 16-bit groups. -/
def ofGroups (a b c d e f g h : UInt16) : Ipv6Address :=
  let hi (w : UInt16) : UInt8 := UInt8.ofNat (w.toNat / 256)
  let lo (w : UInt16) : UInt8 := UInt8.ofNat w.toNat
  ⟨#v[hi a, lo a, hi b, lo b, hi c, lo c, hi d, lo d,
    hi e, lo e, hi f, lo f, hi g, lo g, hi h, lo h]⟩

/-- The address `::`. -/
def unspecified : Ipv6Address := ⟨Vector.replicate 16 0⟩

end Ipv6Address

namespace Address

/-- The octets of an address. -/
def octets : Address → List UInt8
  | v4 a => a.octets.toList
  | v6 a => a.octets.toList

end Address

end IngressGate
