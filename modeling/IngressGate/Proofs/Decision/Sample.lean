import IngressGate.Cli.Sample
import IngressGate.Proofs.Decision.Stages
import IngressGate.Proofs.Frame.Encoding
/-!
# What is decided about sample frames

A sample frame passes through three writers and then through the readers of the gate. What comes of
it is what the rules say about its source, its protocol and its port (`Sample.verdict`), without any
frame in between.
-/
namespace IngressGate

open Bytes

namespace Sample

/-- The number of the protocol of a sample. -/
def protocol : Sample → UInt8
  | tcp => 6
  | udp => 17
  | icmp => 1
  | icmpv6 => 58

/-- Whether samples of a kind go to a port. -/
def hasPort : Sample → Bool
  | tcp | udp => true
  | icmp | icmpv6 => false

/-- What is wrong with a source for a sample, if anything. -/
def mismatch? : Sample → Address → Option Mismatch
  | icmp, .v6 _ => some .icmpFromIpv6
  | icmpv6, .v4 _ => some .icmpv6FromIpv4
  | _, _ => none

/-- The frame around a message. -/
def frameAround (source : Address) (protocol : UInt8) (payload : List UInt8) : List UInt8 :=
  Ethernet.Frame.encode
    { etherType := (packet source protocol payload).1.code
      payload := (packet source protocol payload).2 }

/-- What a rule says about a sample. -/
def ruled (s : Sample) (queue : UInt32) (allowed : ProtocolSet) : Verdict :=
  if allowed.permits s.protocol then .redirect queue else .drop

/-- What rules say about a sample; `queue` is where a redirect goes. -/
def verdict (s : Sample) (rules : Rules) (queue : UInt32) (source : Address) (port : UInt16) :
    Verdict :=
  ((rules (.address source)).map (s.ruled queue)).getD <|
    if s.hasPort then ((rules (.port port)).map (s.ruled queue)).getD .pass else .pass

variable {s : Sample} {source : Address} {port : UInt16} {payload : List UInt8}
  {protocol : UInt8} {rules : Rules} {queue : UInt32}

theorem hasPort_iff (s : Sample) : s.hasPort = true ↔ s.protocol = 6 ∨ s.protocol = 17 := by
  cases s <;> decide

theorem protocol_not_mem_types (s : Sample) :
    s.protocol ∉ Ipv6.extensionTypes ∧ s.protocol ∉ Ipv6.refusedTypes := by
  cases s <;> decide

theorem frame_eq_error {m : Mismatch} (h : s.mismatch? source = some m) (port : UInt16) :
    s.frame source port = .error m := by
  cases s <;> cases source <;> cases h <;> rfl

/-- A sample whose source is of the right family is the frame around its message. -/
theorem frame_eq_ok (h : s.mismatch? source = none) (port : UInt16) :
    ∃ payload, s.transport port source = .ok (s.protocol, payload) ∧
      s.frame source port = .ok (frameAround source s.protocol payload) := by
  cases s <;> cases source <;> cases h <;> exact ⟨_, rfl, rfl⟩

/-- The ports of a sample are where the decision looks for them. -/
theorem readPorts_transport (hport : s.hasPort = true)
    (h : s.transport port source = .ok (s.protocol, payload)) (i : Nat) :
    ∃ c, Decision.readPorts s.protocol ⟨i, payload⟩ = .ok (sourcePort, port) c := by
  cases s with
  | tcp =>
    cases h
    exact ⟨_, Reader.bind_of_ok (Tcp.read_encode _ i)⟩
  | udp =>
    cases h
    exact ⟨_, Reader.bind_of_ok (Udp.read_encode _ i)⟩
  | icmp => cases hport
  | icmpv6 => cases hport

/-- The readers come from a frame to the message in it, and know its source and its protocol. -/
theorem decideFrame_packet (rules : Rules) (queue : UInt32) (source : Address)
    (hext : protocol ∉ Ipv6.extensionTypes) (href : protocol ∉ Ipv6.refusedTypes)
    (payload : List UInt8) :
    ∃ flow i, flow.endpoints.sourceKey = .address source ∧ flow.protocol = protocol ∧
      decideFrame rules queue (frameAround source protocol payload) =
        Decision.decidePacket rules queue flow false ⟨i, payload⟩ := by
  -- The message begins behind 14 bytes of Ethernet header and 20 or 40 bytes of packet header.
  cases source with
  | v4 a =>
    refine ⟨⟨.v4 a (.ofBytes 192 0 2 1), protocol, 0, 0⟩, 34, rfl, rfl, ?_⟩
    simp only [decideFrame, Cursor.ofFrame, frameAround, packet]
    rw [Ethernet.read_encode_untagged rfl (show EtherType.ipv4.code ≠ 0x8100 by decide)]
    simp only [EtherType.ofCode?_code, Decision.decideIpv4, Ipv4.read_encode]
    rw [Ipv4.isLaterFragment_toHeader rfl]
    rfl
  | v6 a =>
    refine ⟨⟨.v6 a (.ofGroups 0x2001 0xDB8 0 0 0 0 0 1), protocol, 0, 0⟩, 54, rfl, rfl, ?_⟩
    simp only [decideFrame, Cursor.ofFrame, frameAround, packet]
    rw [Ethernet.read_encode_untagged rfl (show EtherType.ipv6.code ≠ 0x8100 by decide)]
    simp only [EtherType.ofCode?_code, Decision.decideIpv6]
    rw [Ipv6.read_encode hext href]
    rfl

/-- **What is decided about a sample frame is what the rules say about the sample**, whatever the
rules and the queue of a redirect. -/
theorem verdict_decideFrame (h : s.mismatch? source = none) (port : UInt16) (rules : Rules)
    (queue : UInt32) :
    ∃ frame, s.frame source port = .ok frame ∧
      (decideFrame rules queue frame).verdict = s.verdict rules queue source port := by
  obtain ⟨payload, htransport, hframe⟩ := frame_eq_ok h port
  obtain ⟨hext, href⟩ := s.protocol_not_mem_types
  obtain ⟨flow, i, hsource, hprotocol, hdecide⟩ :=
    decideFrame_packet rules queue source hext href payload
  refine ⟨_, hframe, ?_⟩
  rw [hdecide, verdict]
  cases hrule : rules (.address source) with
  | some allowed =>
    rw [Decision.decidePacket_of_rule (hsource ▸ hrule), Decision.verdict_apply, hprotocol]
    rfl
  | none =>
    have hnone : rules flow.endpoints.sourceKey = none := by rw [hsource, hrule]
    by_cases hport : s.hasPort = true
    · have hp : flow.protocol = 6 ∨ flow.protocol = 17 := by
        rw [hprotocol]
        exact s.hasPort_iff.mp hport
      obtain ⟨c, hread⟩ := readPorts_transport hport htransport i
      rw [Decision.decidePacket_of_ports hnone hp, Decision.decideByPort, hprotocol, hread]
      simp only [if_pos hport]
      cases rules (.port port) with
      | some allowed => exact Decision.verdict_apply _ .port queue allowed
      | none => rfl
    · have hp : ¬ (flow.protocol = 6 ∨ flow.protocol = 17) := by
        rw [hprotocol, ← s.hasPort_iff]
        exact hport
      rw [Decision.decidePacket_of_noPorts hnone hp]
      simp [hport, Finding.verdict]

end Sample

end IngressGate
