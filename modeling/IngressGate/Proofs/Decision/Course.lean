import IngressGate.Proofs.Decision.Stages
import IngressGate.Proofs.Frame.Extent
/-!
# The course of a decision

`Course` relates a frame to the finding that a decision about it comes to, and to the offset up to
which it has looked, in terms of what the readers of headers find and of what the rules say. There
is one case for each way in which the matter of a frame can be settled, and the decision computes
exactly this relation. The parts of it say of a frame which packet it carries (`CarriesPacket`),
whether the ports of that packet are asked for (`NeedsPorts`), which header could not be read
(`Unreadable`) and which rule applies (`Applies`).
-/
namespace IngressGate

namespace Decision

theorem stable_readPorts (protocol : UInt8) : Reader.Stable (readPorts protocol) := by
  rw [readPorts]
  split
  · exact Tcp.stable_read.bind fun _ => Reader.Stable.pure _
  · exact Udp.stable_read.bind fun _ => Reader.Stable.pure _

theorem frugal_readPorts (protocol : UInt8) : Reader.Frugal (readPorts protocol) := by
  rw [readPorts]
  split
  · exact Tcp.frugal_read.bind fun _ => Reader.Frugal.pure _
  · exact Udp.frugal_read.bind fun _ => Reader.Frugal.pure _

end Decision

open Decision

/-! ## What a frame carries -/

/-- The headers that a decision may read. A tag belongs to the Ethernet header, and the extension
headers to that of IPv6. -/
inductive Layer
  | ethernet
  | ipv4
  | ipv6
  | transport
  deriving DecidableEq, Repr

/-- Behind its Ethernet header, which ends at `c`, the frame has a payload of the given type. -/
def Carries (f : List UInt8) (etherType : UInt16) (c : Cursor) : Prop :=
  ∃ h, Ethernet.read (.ofFrame f) = .ok h c ∧ h.etherType = etherType

/-- The frame carries a packet whose header is accepted and ends at `c`: what is known about it, and
whether it belongs to a later fragment. -/
inductive CarriesPacket (f : List UInt8) : (flow : Flow) → (later : Bool) → (c : Cursor) → Prop
  | ipv4 {c h c'} : Carries f 0x0800 c → Ipv4.read c = .ok h c' →
      CarriesPacket f { endpoints := .v4 h.source h.destination, protocol := h.protocol }
        h.isLaterFragment c'
  | ipv6 {c p c'} : Carries f 0x86DD c → Ipv6.read c = .ok p c' →
      CarriesPacket f
        { endpoints := .v6 p.header.source p.header.destination, protocol := p.chain.protocol }
        p.chain.laterFragment c'

/-- What is known about a packet once its ports have been read. -/
def Flow.withPorts (flow : Flow) (ports : UInt16 × UInt16) : Flow :=
  { flow with sourcePort := ports.1, destinationPort := ports.2 }

variable (rules : Rules) (queue : UInt32) (f : List UInt8)

/-- The ports of the packet are asked for: no rule applies to its source, its protocol has ports,
and they are at `c` unless the frame is cut short there. -/
structure NeedsPorts (flow : Flow) (c : Cursor) : Prop where
  packet : CarriesPacket f flow false c
  noRule : rules flow.endpoints.sourceKey = none
  hasPorts : flow.protocol = 6 ∨ flow.protocol = 17

/-- A header that the decision needs cannot be read. -/
inductive Unreadable : Layer → HeaderError → Prop
  | ethernet {e c} : Ethernet.read (.ofFrame f) = .error e c → Unreadable .ethernet e
  | ipv4 {c e c'} : Carries f 0x0800 c → Ipv4.read c = .error e c' → Unreadable .ipv4 e
  | ipv6 {c e c'} : Carries f 0x86DD c → Ipv6.read c = .error e c' → Unreadable .ipv6 e
  | transport {flow c e c'} : NeedsPorts rules f flow c →
      readPorts flow.protocol c = .error e c' → Unreadable .transport e

/-- A rule applies to the packet in the frame: that of its source, or else that of its destination
port. -/
inductive Applies : Flow → Match → ProtocolSet → Prop
  | source {flow later c allowed} : CarriesPacket f flow later c →
      rules flow.endpoints.sourceKey = some allowed → Applies flow .source allowed
  | port {flow c ports c' allowed} : NeedsPorts rules f flow c →
      readPorts flow.protocol c = .ok ports c' → rules (.port ports.2) = some allowed →
      Applies (flow.withPorts ports) .port allowed

/-- The decision comes to a finding, and the last header that it looks at ends at the given offset.
Of an IPv4 header that is rejected, only the fixed part is looked at. -/
inductive Course : Finding → Nat → Prop
  | ethernet {e c} : Ethernet.read (.ofFrame f) = .error e c → Course (.unreadable e) c.position
  | arp {c} : Carries f 0x0806 c → Course (.arp queue) c.position
  | otherType {t c} : Carries f t c → t ≠ 0x0800 → t ≠ 0x0806 → t ≠ 0x86DD →
      Course (.otherType t) c.position
  | ipv4 {c e c'} : Carries f 0x0800 c → Ipv4.read c = .error e c' →
      Course (.unreadable e) (c.position + 20)
  | ipv6 {c e c'} : Carries f 0x86DD c → Ipv6.read c = .error e c' →
      Course (.unreadableIpv6 e) c'.position
  | source {flow later c allowed} : CarriesPacket f flow later c →
      rules flow.endpoints.sourceKey = some allowed →
      Course (apply flow .source queue allowed) c.position
  | noPorts {flow later c} : CarriesPacket f flow later c →
      rules flow.endpoints.sourceKey = none → ¬ (flow.protocol = 6 ∨ flow.protocol = 17) →
      Course (.noAddressRule flow) c.position
  | later {flow c} : CarriesPacket f flow true c → rules flow.endpoints.sourceKey = none →
      flow.protocol = 6 ∨ flow.protocol = 17 → Course (.laterFragment flow) c.position
  | transport {flow c e c'} : NeedsPorts rules f flow c →
      readPorts flow.protocol c = .error e c' →
      Course (.unreadableTransport flow e) c'.position
  | port {flow c ports c' allowed} : NeedsPorts rules f flow c →
      readPorts flow.protocol c = .ok ports c' → rules (.port ports.2) = some allowed →
      Course (apply (flow.withPorts ports) .port queue allowed) c'.position
  | unmatched {flow c ports c'} : NeedsPorts rules f flow c →
      readPorts flow.protocol c = .ok ports c' → rules (.port ports.2) = none →
      Course (.unmatched (flow.withPorts ports)) c'.position

/-! ## The decision computes its course -/

variable {rules queue f} {flow : Flow} {later : Bool} {c : Cursor} {x : Finding} {n : Nat}

theorem Carries.decideFrame_ipv4 (h : Carries f 0x0800 c) :
    decideFrame rules queue f = decideIpv4 rules queue c := by
  obtain ⟨h, hread, htype⟩ := h
  simp only [decideFrame, hread, htype]
  rfl

theorem Carries.decideFrame_ipv6 (h : Carries f 0x86DD c) :
    decideFrame rules queue f = decideIpv6 rules queue c := by
  obtain ⟨h, hread, htype⟩ := h
  simp only [decideFrame, hread, htype]
  rfl

theorem CarriesPacket.decideFrame_eq (h : CarriesPacket f flow later c) :
    decideFrame rules queue f = decidePacket rules queue flow later c := by
  cases h with
  | ipv4 hc hread => rw [hc.decideFrame_ipv4, decideIpv4, hread]
  | ipv6 hc hread => rw [hc.decideFrame_ipv6, decideIpv6, hread]

theorem NeedsPorts.decideFrame_eq (h : NeedsPorts rules f flow c) :
    decideFrame rules queue f = decideByPort rules queue flow c :=
  h.packet.decideFrame_eq.trans (decidePacket_of_ports h.noRule h.hasPorts)

theorem Course.decideFrame_eq (h : Course rules queue f x n) : decideFrame rules queue f = x := by
  cases h with
  | ethernet hread => rw [decideFrame, hread]
  | arp hc =>
    obtain ⟨h, hread, htype⟩ := hc
    simp only [decideFrame, hread, htype]
    rfl
  | otherType hc h4 ha h6 =>
    obtain ⟨h, hread, rfl⟩ := hc
    by_cases hv : h.etherType = 0x8100
    · simp [decideFrame, hread, hv, EtherType.ofCode?]
    · simp [decideFrame, hread, EtherType.ofCode?, h4, ha, h6, hv]
  | ipv4 hc hread => rw [hc.decideFrame_ipv4, decideIpv4, hread]
  | ipv6 hc hread => rw [hc.decideFrame_ipv6, decideIpv6, hread]
  | source hp hrule => rw [hp.decideFrame_eq, decidePacket_of_rule hrule]
  | noPorts hp hrule hports => rw [hp.decideFrame_eq, decidePacket_of_noPorts hrule hports]
  | later hp hrule hports => rw [hp.decideFrame_eq, decidePacket_of_later hrule hports]
  | transport hn hread => rw [hn.decideFrame_eq, decideByPort, hread]
  | port hn hread hrule =>
    rw [hn.decideFrame_eq, decideByPort, hread]
    simp only [hrule]
    rfl
  | unmatched hn hread hrule =>
    rw [hn.decideFrame_eq, decideByPort, hread]
    simp only [hrule]
    rfl

theorem CarriesPacket.exists_course (h : CarriesPacket f flow later c) :
    ∃ x n, Course rules queue f x n := by
  cases hrule : rules flow.endpoints.sourceKey with
  | some allowed => exact ⟨_, _, .source h hrule⟩
  | none =>
    by_cases hports : flow.protocol = 6 ∨ flow.protocol = 17
    · cases later with
      | true => exact ⟨_, _, .later h hrule hports⟩
      | false =>
        have hneeds : NeedsPorts rules f flow c := ⟨h, hrule, hports⟩
        cases hread : readPorts flow.protocol c with
        | error e c' => exact ⟨_, _, .transport hneeds hread⟩
        | ok ports c' =>
          cases hport : rules (.port ports.2) with
          | some allowed => exact ⟨_, _, .port hneeds hread hport⟩
          | none => exact ⟨_, _, .unmatched hneeds hread hport⟩
    · exact ⟨_, _, .noPorts h hrule hports⟩

variable (rules queue f) in
theorem exists_course : ∃ x n, Course rules queue f x n := by
  cases hread : Ethernet.read (.ofFrame f) with
  | error e c => exact ⟨_, _, .ethernet hread⟩
  | ok h c =>
    have hc : Carries f h.etherType c := ⟨h, hread, rfl⟩
    by_cases h4 : h.etherType = 0x0800
    · rw [h4] at hc
      cases hip : Ipv4.read c with
      | error e c' => exact ⟨_, _, .ipv4 hc hip⟩
      | ok ip c' => exact (CarriesPacket.ipv4 hc hip).exists_course
    by_cases ha : h.etherType = 0x0806
    · exact ⟨_, _, .arp (ha ▸ hc)⟩
    by_cases h6 : h.etherType = 0x86DD
    · rw [h6] at hc
      cases hip : Ipv6.read c with
      | error e c' => exact ⟨_, _, .ipv6 hc hip⟩
      | ok p c' => exact (CarriesPacket.ipv6 hc hip).exists_course
    · exact ⟨_, _, .otherType hc h4 ha h6⟩

variable (rules queue f) in
/-- Every decision has a course. -/
theorem exists_course_decideFrame : ∃ n, Course rules queue f (decideFrame rules queue f) n := by
  obtain ⟨x, n, h⟩ := exists_course rules queue f
  exact ⟨n, h.decideFrame_eq.symm ▸ h⟩

/-! ## Headers that cannot be read -/

namespace Finding

/-- The error that was met, if a header could not be read. -/
def error? : Finding → Option HeaderError
  | unreadable e | unreadableIpv6 e | unreadableTransport _ e => some e
  | _ => none

theorem error?_apply (flow : Flow) (rule : Match) (queue : UInt32) (allowed : ProtocolSet) :
    (apply flow rule queue allowed).error? = none := by
  rw [apply]
  split <;> rfl

end Finding

namespace Layer

/-- The verdict on a frame with a header that cannot be read. -/
def fallback : Layer → Verdict
  | ipv6 => .drop
  | ethernet | ipv4 | transport => .pass

/-- The level of the event about it. -/
def level : Layer → Level
  | ipv6 => .error
  | ethernet | ipv4 | transport => .warn

end Layer

variable {layer : Layer} {e : HeaderError}

/-- A header that cannot be read settles the matter. -/
theorem Unreadable.decideFrame_eq (h : Unreadable rules f layer e) (queue : UInt32) :
    (decideFrame rules queue f).error? = some e ∧
      (decideFrame rules queue f).verdict = layer.fallback ∧
      (decideFrame rules queue f).kind = .invalidPacket ∧
      (decideFrame rules queue f).level = layer.level := by
  cases h with
  | ethernet hread =>
    rw [(Course.ethernet hread).decideFrame_eq]
    exact ⟨rfl, rfl, rfl, rfl⟩
  | ipv4 hc hread =>
    rw [(Course.ipv4 hc hread).decideFrame_eq]
    exact ⟨rfl, rfl, rfl, rfl⟩
  | ipv6 hc hread =>
    rw [(Course.ipv6 hc hread).decideFrame_eq]
    exact ⟨rfl, rfl, rfl, rfl⟩
  | transport hn hread =>
    rw [(Course.transport hn hread).decideFrame_eq]
    exact ⟨rfl, rfl, rfl, rfl⟩

theorem Course.exists_unreadable (h : Course rules queue f x n) (he : x.error? = some e) :
    ∃ layer, Unreadable rules f layer e := by
  cases h with
  | ethernet hread => cases he; exact ⟨_, .ethernet hread⟩
  | ipv4 hc hread => cases he; exact ⟨_, .ipv4 hc hread⟩
  | ipv6 hc hread => cases he; exact ⟨_, .ipv6 hc hread⟩
  | transport hn hread => cases he; exact ⟨_, .transport hn hread⟩
  | source hp hrule => rw [Finding.error?_apply] at he; cases he
  | port hn hread hrule => rw [Finding.error?_apply] at he; cases he
  | arp | otherType | noPorts | later | unmatched => cases he

/-! ## What a frame carries is determined -/

theorem Carries.unique {t t' : UInt16} {c c' : Cursor} (h : Carries f t c) (h' : Carries f t' c') :
    t = t' ∧ c = c' := by
  obtain ⟨e, hread, rfl⟩ := h
  obtain ⟨e', hread', rfl⟩ := h'
  rw [hread] at hread'
  cases hread'
  exact ⟨rfl, rfl⟩

theorem CarriesPacket.unique {flow' : Flow} {later' : Bool} {c' : Cursor}
    (h : CarriesPacket f flow later c) (h' : CarriesPacket f flow' later' c') :
    flow = flow' ∧ later = later' ∧ c = c' := by
  cases h with
  | ipv4 hc hread =>
    cases h' with
    | ipv4 hc' hread' =>
      obtain ⟨-, rfl⟩ := hc.unique hc'
      rw [hread] at hread'
      cases hread'
      exact ⟨rfl, rfl, rfl⟩
    | ipv6 hc' hread' => exact absurd (hc.unique hc').1 (by decide)
  | ipv6 hc hread =>
    cases h' with
    | ipv4 hc' hread' => exact absurd (hc.unique hc').1 (by decide)
    | ipv6 hc' hread' =>
      obtain ⟨-, rfl⟩ := hc.unique hc'
      rw [hread] at hread'
      cases hread'
      exact ⟨rfl, rfl, rfl⟩

theorem CarriesPacket.ports_eq (h : CarriesPacket f flow later c) :
    flow.sourcePort = 0 ∧ flow.destinationPort = 0 := by
  cases h <;> exact ⟨rfl, rfl⟩

end IngressGate
