import IngressGate.Frame.Ethernet
import IngressGate.Frame.Ipv4
import IngressGate.Frame.Ipv6
import IngressGate.Frame.Protocol
import IngressGate.Frame.Transport
/-!
# Sample frames

A frame with one packet from a given source, for trying the rules. TCP and UDP samples go to a given
port; the other two are echo requests of the family that their protocol belongs to.
-/
namespace IngressGate

/-- What a sample frame carries. -/
inductive Sample
  | tcp
  | udp
  | icmp
  | icmpv6
  deriving DecidableEq, Repr

namespace Sample

/-- The names of the samples. -/
def named : List (String × Sample) :=
  [("tcp", tcp), ("udp", udp), ("icmp", icmp), ("icmpv6", icmpv6)]

/-- The sample of a name. -/
def ofName? (name : String) : Option Sample := named.lookup name

/-- A sample and a source of different families. -/
inductive Mismatch
  | icmpFromIpv6
  | icmpv6FromIpv4
  deriving DecidableEq, Repr

/-- The wording of the error. -/
def Mismatch.message : Mismatch → String
  | icmpFromIpv6 => "icmp frame needs an IPv4 source"
  | icmpv6FromIpv4 => "icmpv6 frame needs an IPv6 source"

/-- The port that samples come from. -/
def sourcePort : UInt16 := 40000

/-- An echo request of the given type, without a checksum. -/
def echo (type : UInt8) : List UInt8 := [type, 0, 0, 0, 0, 1, 0, 1]

/-- The protocol and the transport message of a sample. -/
def transport (port : UInt16) : Sample → Address → Except Mismatch (UInt8 × List UInt8)
  | tcp, _ =>
    .ok (Protocol.tcp,
      Tcp.Segment.encode { sourcePort := sourcePort, destinationPort := port })
  | udp, _ =>
    .ok (Protocol.udp,
      Udp.Datagram.encode { sourcePort := sourcePort, destinationPort := port })
  | icmp, .v4 _ => .ok (Protocol.icmp, echo 8)
  | icmpv6, .v6 _ => .ok (Protocol.icmpv6, echo 128)
  | icmp, .v6 _ => .error .icmpFromIpv6
  | icmpv6, .v4 _ => .error .icmpv6FromIpv4

/-- The EtherType and the packet from a source to an address for documentation. -/
def packet (source : Address) (protocol : UInt8) (payload : List UInt8) :
    EtherType × List UInt8 :=
  match source with
  | .v4 source =>
    (.ipv4, Ipv4.Packet.encode
      { protocol, source, payload, destination := .ofBytes 192 0 2 1 })
  | .v6 source =>
    (.ipv6, Ipv6.Packet.encode
      { nextHeader := protocol, source, payload
        destination := .ofGroups 0x2001 0xDB8 0 0 0 0 0 1 })

/-- The sample frame from a source to a port. -/
def frame (s : Sample) (source : Address) (port : UInt16) : Except Mismatch (List UInt8) :=
  (s.transport port source).map fun (protocol, payload) =>
    let (type, packet) := packet source protocol payload
    Ethernet.Frame.encode { etherType := type.code, payload := packet }

end Sample

end IngressGate
