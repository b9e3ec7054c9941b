/-!
# Protocol numbers

The EtherTypes and the upper-layer protocol numbers that the gate tells apart.
-/
namespace IngressGate

/-- The EtherTypes with a name. -/
inductive EtherType
  | ipv4
  | arp
  | vlan
  | ipv6
  deriving DecidableEq, Repr

namespace EtherType

/-- The number of an EtherType. -/
def code : EtherType → UInt16
  | ipv4 => 0x0800
  | arp => 0x0806
  | vlan => 0x8100
  | ipv6 => 0x86DD

/-- The EtherType with a given number. -/
def ofCode? (w : UInt16) : Option EtherType :=
  if w = 0x0800 then some ipv4
  else if w = 0x0806 then some arp
  else if w = 0x8100 then some vlan
  else if w = 0x86DD then some ipv6
  else none

@[simp] theorem ofCode?_code (t : EtherType) : ofCode? t.code = some t := by cases t <;> rfl

end EtherType

namespace Protocol

/-- The number of ICMP. -/
def icmp : UInt8 := 1

/-- The number of TCP. -/
def tcp : UInt8 := 6

/-- The number of UDP. -/
def udp : UInt8 := 17

/-- The number of ICMPv6. -/
def icmpv6 : UInt8 := 58

/-- How messages name a protocol number. -/
def name (p : UInt8) : String :=
  if p = tcp then "tcp"
  else if p = udp then "udp"
  else if p = icmp then "icmp"
  else if p = icmpv6 then "icmpv6"
  else "unclassified"

/-- Whether the protocol has ports that rules can name. -/
def hasPorts (p : UInt8) : Bool := p = tcp ∨ p = udp

end Protocol

end IngressGate
