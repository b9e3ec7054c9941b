import IngressGate.Event
import IngressGate.Frame.Ethernet
import IngressGate.Frame.Ipv4
import IngressGate.Frame.Ipv6
import IngressGate.Frame.Transport
import IngressGate.Rule.Book
import IngressGate.Verdict
/-!
# Deciding about a frame

`decide` reads a frame layer by layer, asks the rules about its source address and then about its
destination port, and comes to a `Finding`: what settled the matter. Verdict, event and error count
all follow from the finding. An unreadable IPv6 chain is dropped, while any other unreadable header
lets the frame pass.
-/
namespace IngressGate

/-- Source and destination of a packet. -/
inductive Endpoints
  | v4 (source destination : Ipv4Address)
  | v6 (source destination : Ipv6Address)
  deriving DecidableEq, Repr

/-- The key of the source address. -/
def Endpoints.sourceKey : Endpoints → Key
  | v4 source _ => .address (.v4 source)
  | v6 source _ => .address (.v6 source)

/-- What is known about an accepted packet; both ports are zero until its transport header has been
read. -/
structure Flow where
  endpoints : Endpoints
  protocol : UInt8
  sourcePort : UInt16 := 0
  destinationPort : UInt16 := 0
  deriving DecidableEq, Repr

/-- The rule that applied: that of the source address, or that of the destination port. -/
inductive Match
  | source
  | port
  deriving DecidableEq, Repr

/-- What settled the matter of a frame. -/
inductive Finding
  /-- The Ethernet header or the IPv4 header could not be read. -/
  | unreadable (error : HeaderError)
  /-- The IPv6 header or its chain could not be read. -/
  | unreadableIpv6 (error : HeaderError)
  /-- The transport header was needed and could not be read. -/
  | unreadableTransport (flow : Flow) (error : HeaderError)
  /-- The frame carries an address resolution message. -/
  | arp (queue : UInt32)
  /-- The frame carries something else than internet packets. -/
  | otherType (etherType : UInt16)
  /-- A rule applied and permits the protocol. -/
  | permitted (flow : Flow) (rule : Match) (queue : UInt32)
  /-- A rule applied and does not permit the protocol. -/
  | refused (flow : Flow) (rule : Match) (allowed : ProtocolSet)
  /-- No rule for the source, and the protocol has no ports. -/
  | noAddressRule (flow : Flow)
  /-- No rule for the source, and the ports are in another fragment. -/
  | laterFragment (flow : Flow)
  /-- No rule applied. -/
  | unmatched (flow : Flow)
  deriving DecidableEq, Repr

namespace Finding

/-- What is to become of the frame. -/
def verdict : Finding → Verdict
  | unreadable _ | unreadableTransport _ _ => .pass
  | unreadableIpv6 _ => .drop
  | arp queue => .redirect queue
  | otherType _ => .pass
  | permitted _ _ queue => .redirect queue
  | refused _ _ _ => .drop
  | noAddressRule _ | laterFragment _ | unmatched _ => .pass

/-- Whether a header that was needed could not be read. -/
def isInvalid : Finding → Bool
  | unreadable _ | unreadableIpv6 _ | unreadableTransport _ _ => true
  | _ => false

/-- The kind of the event. -/
def kind : Finding → EventKind
  | unreadable _ | unreadableIpv6 _ | unreadableTransport _ _ => .invalidPacket
  | arp _ | permitted _ _ _ => .redirect
  | refused _ _ _ => .protocolMismatch
  | otherType _ | noAddressRule _ | laterFragment _ | unmatched _ => .pass

/-- The severity of the event. -/
def level : Finding → Level
  | unreadable _ | unreadableTransport _ _ => .warn
  | unreadableIpv6 _ => .error
  | refused _ _ _ => .info
  | _ => .debug

/-- What is known about the packet, if there is an accepted one. -/
def flow? : Finding → Option Flow
  | unreadable _ | unreadableIpv6 _ | arp _ | otherType _ => none
  | unreadableTransport flow _ | permitted flow _ _ | refused flow _ _ => some flow
  | noAddressRule flow | laterFragment flow | unmatched flow => some flow

/-- How a message names the rule that applied. -/
def ruleText (flow : Flow) : Match → String
  | .source => "source " ++ Protocol.name flow.protocol
  | .port => "port " ++ toString flow.destinationPort ++ " " ++ Protocol.name flow.protocol

/-- The message of the event. -/
def text : Finding → String
  | unreadable e | unreadableIpv6 e | unreadableTransport _ e => e.message
  | arp queue => "arp redirected to queue " ++ toString queue
  | otherType etherType => "non-ip ethertype 0x" ++ Text.hexPadded 4 etherType.toNat ++ " passed"
  | permitted flow rule queue =>
    ruleText flow rule ++ " whitelisted, redirect to queue " ++ toString queue
  | refused flow rule allowed => ruleText flow rule ++ " not permitted by " ++ allowed.text
  | noAddressRule flow => "no address policy, " ++ Protocol.name flow.protocol ++ " passed"
  | laterFragment flow => "non-first " ++ Protocol.name flow.protocol ++ " fragment passed"
  | unmatched _ => "no policy matched"

/-- The event about the frame. -/
def event (f : Finding) : Event :=
  let e := Event.ofText f.kind f.level f.text
  match f.flow? with
  | none => e
  | some flow =>
    let e := (e.withProtocol flow.protocol).withPorts flow.sourcePort flow.destinationPort
    match flow.endpoints with
    | .v4 source destination => e.withIpv4 source destination
    | .v6 source destination => e.withIpv6 source destination

end Finding

/-- Where the rules are looked up: the set of protocols that a key permits, if there is a rule. -/
abbrev Rules := Key → Option ProtocolSet

namespace Decision

/-- What a rule that applies to a packet says about it. -/
def apply (flow : Flow) (rule : Match) (queue : UInt32) (allowed : ProtocolSet) : Finding :=
  if allowed.permits flow.protocol then .permitted flow rule queue
  else .refused flow rule allowed

/-- Reads the source and the destination port from a transport header. -/
def readPorts (protocol : UInt8) : Reader (UInt16 × UInt16) :=
  if protocol = Protocol.tcp then do
    let h ← Tcp.read
    return (h.sourcePort, h.destinationPort)
  else do
    let h ← Udp.read
    return (h.sourcePort, h.destinationPort)

/-- Decides about a packet by its ports, which the header at the cursor has. -/
def decideByPort (rules : Rules) (queue : UInt32) (flow : Flow) (c : Cursor) : Finding :=
  match readPorts flow.protocol c with
  | .error e _ => .unreadableTransport flow e
  | .ok (sourcePort, destinationPort) _ =>
    let flow := { flow with sourcePort, destinationPort }
    match rules (.port destinationPort) with
    | some allowed => apply flow .port queue allowed
    | none => .unmatched flow

/-- Decides about a packet whose payload starts at the cursor. -/
def decidePacket (rules : Rules) (queue : UInt32) (flow : Flow) (later : Bool) (c : Cursor) :
    Finding :=
  match rules flow.endpoints.sourceKey with
  | some allowed => apply flow .source queue allowed
  | none =>
    if !Protocol.hasPorts flow.protocol then .noAddressRule flow
    else if later then .laterFragment flow
    else decideByPort rules queue flow c

/-- Decides about the IPv4 packet at the cursor. -/
def decideIpv4 (rules : Rules) (queue : UInt32) (c : Cursor) : Finding :=
  match Ipv4.read c with
  | .error e _ => .unreadable e
  | .ok h c =>
    decidePacket rules queue { endpoints := .v4 h.source h.destination, protocol := h.protocol }
      h.isLaterFragment c

/-- Decides about the IPv6 packet at the cursor. -/
def decideIpv6 (rules : Rules) (queue : UInt32) (c : Cursor) : Finding :=
  match Ipv6.read c with
  | .error e _ => .unreadableIpv6 e
  | .ok p c =>
    decidePacket rules queue
      { endpoints := .v6 p.header.source p.header.destination, protocol := p.chain.protocol }
      p.chain.laterFragment c

end Decision

/-- Decides about a frame; `queue` is where a redirect would go. -/
def decideFrame (rules : Rules) (queue : UInt32) (frame : List UInt8) : Finding :=
  match Ethernet.read (.ofFrame frame) with
  | .error e _ => .unreadable e
  | .ok h c =>
    match EtherType.ofCode? h.etherType with
    | some .arp => .arp queue
    | some .ipv4 => Decision.decideIpv4 rules queue c
    | some .ipv6 => Decision.decideIpv6 rules queue c
    | _ => .otherType h.etherType

end IngressGate
