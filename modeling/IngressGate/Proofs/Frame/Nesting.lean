import IngressGate.Proofs.Frame.Inverse
/-!
# Headers within headers

A message with a transport header is the payload of a packet, and the packet is that of a frame. The
readers of the three headers, one behind the other, find in the frame what was written, each at the
place where the one before it stopped, and the last stops where the payload of the message begins
(`Stack.read_back`). Lengths are written in 16 bits, however long the payload is.
-/
namespace IngressGate

namespace Reader
variable {α β : Type} {r : Reader α} {k : α → Reader β} {a : α} {b : β}
  {bs mid payload : List UInt8} {n : Nat}

/-- At whatever position the bytes begin, the reader finds something in them and stops where the
payload, with which they end, begins. -/
structure Finds (r : Reader α) (bs : List UInt8) (a : α) (payload : List UInt8) : Prop where
  length_le : payload.length ≤ bs.length
  read_eq : ∀ p, r ⟨p, bs⟩ = .ok a ⟨p + (bs.length - payload.length), payload⟩

namespace Finds

theorem of_length (hlength : bs.length = n + payload.length)
    (hread : ∀ p, r ⟨p, bs⟩ = .ok a ⟨p + n, payload⟩) : Finds r bs a payload where
  length_le := by omega
  read_eq p := by rw [hread p, hlength, Nat.add_sub_cancel]

theorem pure (a : α) (bs : List UInt8) : Finds (pure a) bs a bs where
  length_le := Nat.le_refl _
  read_eq p := by rw [pure_apply, Nat.sub_self, Nat.add_zero]

/-- The second reader finds what is in the payload of the first. -/
theorem bind (hr : Finds r bs a mid) (hk : Finds (k a) mid b payload) :
    Finds (r >>= k) bs b payload where
  length_le := Nat.le_trans hk.length_le hr.length_le
  read_eq p := by
    have hmid := hr.length_le
    have hpayload := hk.length_le
    rw [bind_of_ok (hr.read_eq p), hk.read_eq]
    congr 2
    omega

theorem map (f : α → β) (h : Finds r bs a payload) : Finds (f <$> r) bs (f a) payload := by
  rw [map_eq_pure_bind]
  exact h.bind (.pure (f a) payload)

end Finds

end Reader

open Reader

/-! ## One header -/

theorem Ethernet.finds_read {f : Frame} (h : f.tag = none → f.etherType ≠ 0x8100) :
    Finds read f.encode f.header f.payload :=
  .of_length (length_encode f) (read_encode h)

namespace Ipv4.Packet
variable (p : Packet)

/-- What the header of a packet says of it. -/
structure ShownBy (p : Packet) (h : Header) : Prop where
  version_eq : h.version = 4
  headerWords_eq : h.headerWords = 5
  totalLength_eq : h.totalLength.toNat = p.encode.length % 2 ^ 16
  fragmentOffset_eq : h.fragmentOffset.toNat = p.fragmentOffset.toNat % 2 ^ 13
  isLaterFragment_iff : h.isLaterFragment = true ↔ p.fragmentOffset.toNat % 2 ^ 13 ≠ 0
  timeToLive_eq : h.timeToLive = p.timeToLive
  protocol_eq : h.protocol = p.protocol
  source_eq : h.source = p.source
  destination_eq : h.destination = p.destination

theorem length_encode : p.encode.length = 20 + p.payload.length := by
  rw [encode, List.length_append, length_header]

theorem toNat_offsetField : p.offsetField.toNat = p.fragmentOffset.toNat % 2 ^ 13 := by
  rw [offsetField, UInt16.toNat_and]
  exact Nat.and_two_pow_sub_one_eq_mod _ 13

theorem shownBy_toHeader : p.ShownBy p.toHeader where
  version_eq := rfl
  headerWords_eq := rfl
  totalLength_eq := by
    rw [length_encode, toHeader]
    exact UInt16.toNat_ofNat'
  fragmentOffset_eq := p.toNat_offsetField
  isLaterFragment_iff := by
    rw [← toNat_offsetField, Header.isLaterFragment, decide_eq_true_iff, ne_eq, ← UInt16.toNat_inj]
    rfl
  timeToLive_eq := rfl
  protocol_eq := rfl
  source_eq := rfl
  destination_eq := rfl

theorem finds_read : Finds read p.encode p.toHeader p.payload :=
  .of_length p.length_encode (read_encode p)

end Ipv4.Packet

namespace Ipv6.Packet
variable {p : Packet}

/-- What the header of a packet without extensions, and the end of its chain, say of it. -/
structure ShownBy (p : Packet) (r : Resolved) : Prop where
  version_eq : r.header.version = 6
  payloadLength_eq : r.header.payloadLength.toNat = p.payload.length % 2 ^ 16
  nextHeader_eq : r.header.nextHeader = p.nextHeader
  hopLimit_eq : r.header.hopLimit = p.hopLimit
  source_eq : r.header.source = p.source
  destination_eq : r.header.destination = p.destination
  protocol_eq : r.chain.protocol = p.nextHeader
  extensions_eq : r.chain.extensions = 0
  laterFragment_eq : r.chain.laterFragment = false

theorem length_encode (p : Packet) : p.encode.length = 40 + p.payload.length := by
  simp [encode]
  omega

theorem shownBy_toHeader (p : Packet) : p.ShownBy ⟨p.toHeader, p.nextHeader, 0, false⟩ where
  version_eq := rfl
  payloadLength_eq := UInt16.toNat_ofNat'
  nextHeader_eq := rfl
  hopLimit_eq := rfl
  source_eq := rfl
  destination_eq := rfl
  protocol_eq := rfl
  extensions_eq := rfl
  laterFragment_eq := rfl

theorem finds_read (hext : p.nextHeader ∉ extensionTypes) (href : p.nextHeader ∉ refusedTypes) :
    Finds read p.encode ⟨p.toHeader, p.nextHeader, 0, false⟩ p.payload :=
  .of_length p.length_encode (read_encode hext href)

end Ipv6.Packet

namespace Tcp.Segment
variable (s : Segment)

/-- What the header of a segment says of it. -/
structure ShownBy (s : Segment) (h : Header) : Prop where
  sourcePort_eq : h.sourcePort = s.sourcePort
  destinationPort_eq : h.destinationPort = s.destinationPort
  dataOffset_eq : h.dataOffset = 5
  flags_eq : h.flags = s.flags

theorem shownBy_toHeader : s.ShownBy s.toHeader := ⟨rfl, rfl, rfl, rfl⟩

theorem length_encode : s.encode.length = 20 + s.payload.length := by
  simp [encode]
  omega

theorem finds_read : Finds read s.encode s.toHeader s.payload :=
  .of_length s.length_encode (read_encode s)

end Tcp.Segment

namespace Udp.Datagram
variable (d : Datagram)

/-- What the header of a datagram says of it. -/
structure ShownBy (d : Datagram) (h : Header) : Prop where
  sourcePort_eq : h.sourcePort = d.sourcePort
  destinationPort_eq : h.destinationPort = d.destinationPort
  length_eq : h.length.toNat = d.encode.length % 2 ^ 16

theorem length_encode : d.encode.length = 8 + d.payload.length := by
  simp [encode]
  omega

theorem shownBy_toHeader : d.ShownBy d.toHeader where
  sourcePort_eq := rfl
  destinationPort_eq := rfl
  length_eq := by
    rw [length_encode, toHeader]
    exact UInt16.toNat_ofNat'

theorem finds_read : Finds read d.encode d.toHeader d.payload :=
  .of_length d.length_encode (read_encode d)

end Udp.Datagram

/-! ## Either of two headers -/

/-- A message to be written, of one of two transport protocols. -/
inductive Transport
  | tcp (segment : Tcp.Segment)
  | udp (datagram : Udp.Datagram)

namespace Transport

/-- The header of a message. -/
inductive Header
  | tcp (header : Tcp.Header)
  | udp (header : Udp.Header)

/-- The bytes of a message. -/
def encode : Transport → List UInt8
  | tcp segment => segment.encode
  | udp datagram => datagram.encode

/-- What a message carries. -/
def payload : Transport → List UInt8
  | tcp segment => segment.payload
  | udp datagram => datagram.payload

/-- The reader for messages of the same protocol. -/
def read : Transport → Reader Header
  | tcp _ => .tcp <$> Tcp.read
  | udp _ => .udp <$> Udp.read

/-- What the header of a message says of it. -/
inductive ShownBy : Transport → Header → Prop
  | tcp {segment header} : segment.ShownBy header → ShownBy (tcp segment) (.tcp header)
  | udp {datagram header} : datagram.ShownBy header → ShownBy (udp datagram) (.udp header)

theorem exists_finds (t : Transport) : ∃ h, Finds t.read t.encode h t.payload ∧ t.ShownBy h := by
  cases t with
  | tcp s => exact ⟨_, s.finds_read.map Header.tcp, .tcp s.shownBy_toHeader⟩
  | udp d => exact ⟨_, d.finds_read.map Header.udp, .udp d.shownBy_toHeader⟩

end Transport

/-- A packet to be written, of one of two versions. -/
inductive Network
  | ipv4 (packet : Ipv4.Packet)
  | ipv6 (packet : Ipv6.Packet)

namespace Network

/-- The header of a packet. -/
inductive Header
  | ipv4 (header : Ipv4.Header)
  | ipv6 (resolved : Ipv6.Resolved)

/-- The bytes of a packet. -/
def encode : Network → List UInt8
  | ipv4 packet => packet.encode
  | ipv6 packet => packet.encode

/-- What a packet carries. -/
def payload : Network → List UInt8
  | ipv4 packet => packet.payload
  | ipv6 packet => packet.payload

/-- The packet with another payload. -/
def carrying (payload : List UInt8) : Network → Network
  | ipv4 packet => ipv4 { packet with payload }
  | ipv6 packet => ipv6 { packet with payload }

/-- The type of the frames that a packet travels in. -/
def etherType : Network → EtherType
  | ipv4 _ => .ipv4
  | ipv6 _ => .ipv6

/-- The reader for packets of the same version. -/
def read : Network → Reader Header
  | ipv4 _ => .ipv4 <$> Ipv4.read
  | ipv6 _ => .ipv6 <$> Ipv6.read

/-- The packet does not announce an extension header: an IPv6 packet names a transport protocol. -/
def NamesTransport : Network → Prop
  | ipv4 _ => True
  | ipv6 packet => packet.nextHeader = Protocol.tcp ∨ packet.nextHeader = Protocol.udp

/-- What the header of a packet says of it. -/
inductive ShownBy : Network → Header → Prop
  | ipv4 {packet header} : packet.ShownBy header → ShownBy (ipv4 packet) (.ipv4 header)
  | ipv6 {packet resolved} : packet.ShownBy resolved → ShownBy (ipv6 packet) (.ipv6 resolved)

variable {n : Network}

theorem exists_finds (h : n.NamesTransport) :
    ∃ h, Finds n.read n.encode h n.payload ∧ n.ShownBy h := by
  cases n with
  | ipv4 p => exact ⟨_, p.finds_read.map Header.ipv4, .ipv4 p.shownBy_toHeader⟩
  | ipv6 p =>
    have hext : p.nextHeader ∉ Ipv6.extensionTypes := by
      rcases h with h | h <;> rw [h] <;> decide
    have href : p.nextHeader ∉ Ipv6.refusedTypes := by
      rcases h with h | h <;> rw [h] <;> decide
    exact ⟨_, (Ipv6.Packet.finds_read hext href).map Header.ipv6, .ipv6 p.shownBy_toHeader⟩

theorem payload_carrying (bs : List UInt8) (n : Network) : (n.carrying bs).payload = bs := by
  cases n <;> rfl

theorem read_carrying (bs : List UInt8) (n : Network) : (n.carrying bs).read = n.read := by
  cases n <;> rfl

theorem namesTransport_carrying (bs : List UInt8) (h : n.NamesTransport) :
    (n.carrying bs).NamesTransport := by
  cases n <;> exact h

theorem code_etherType_ne (n : Network) : n.etherType.code ≠ 0x8100 := by
  cases n with
  | ipv4 p => exact show EtherType.ipv4.code ≠ 0x8100 by decide
  | ipv6 p => exact show EtherType.ipv6.code ≠ 0x8100 by decide

end Network

/-! ## All three headers -/

/-- A message within a packet within a frame. The payload of the packet is the message, whatever
was its payload before. -/
structure Stack where
  destination : MacAddress
  source : MacAddress
  tag : Option VlanTag
  network : Network
  transport : Transport

namespace Stack

/-- The packet around the message. -/
def packet (s : Stack) : Network := s.network.carrying s.transport.encode

/-- The frame around the packet. -/
def frame (s : Stack) : Ethernet.Frame where
  destination := s.destination
  source := s.source
  tag := s.tag
  etherType := s.packet.etherType.code
  payload := s.packet.encode

/-- Reads the three headers one behind the other. -/
def read (s : Stack) : Reader (Ethernet.Header × Network.Header × Transport.Header) := do
  let ethernet ← Ethernet.read
  let network ← s.network.read
  let transport ← s.transport.read
  return (ethernet, network, transport)

/-- **Frames around packets around messages are read back**, header by header: each says what was
written, and what remains in the end is the payload of the message. -/
theorem read_back (s : Stack) (h : s.network.NamesTransport) :
    ∃ network transport,
      s.read (.ofFrame s.frame.encode) =
        .ok (⟨s.destination, s.source, s.tag, s.packet.etherType.code⟩, network, transport)
          ⟨s.frame.encode.length - s.transport.payload.length, s.transport.payload⟩ ∧
      s.packet.ShownBy network ∧ s.transport.ShownBy transport := by
  have hframe : Finds Ethernet.read s.frame.encode s.frame.header s.packet.encode :=
    Ethernet.finds_read fun _ => s.packet.code_etherType_ne
  obtain ⟨network, hpacket, hnetwork⟩ :=
    Network.exists_finds (Network.namesTransport_carrying s.transport.encode h)
  obtain ⟨transport, hmessage, htransport⟩ := s.transport.exists_finds
  rw [Network.read_carrying, Network.payload_carrying] at hpacket
  have hread : Finds s.read s.frame.encode (s.frame.header, network, transport)
      s.transport.payload :=
    hframe.bind (hpacket.bind (hmessage.bind (.pure _ _)))
  have hstart := hread.read_eq 0
  rw [Nat.zero_add] at hstart
  exact ⟨network, transport, hstart, hnetwork, htransport⟩

/-- A datagram that is too long for its length field, in an IPv6 packet in a frame with a tag. -/
def longStack : Stack where
  destination := .broadcast
  source := .zero
  tag := some ⟨0xB064⟩
  network := .ipv6 { nextHeader := 17, hopLimit := 1 }
  transport := .udp { sourcePort := 53, destinationPort := 5353, payload := .replicate 65535 0x81 }

theorem read_back_longStack : longStack.network.NamesTransport ∧
    ∃ network header,
      longStack.read (.ofFrame longStack.frame.encode) =
        .ok (⟨.broadcast, .zero, some ⟨0xB064⟩, 0x86DD⟩, network, .udp header)
          ⟨longStack.frame.encode.length - longStack.transport.payload.length,
            longStack.transport.payload⟩ ∧
      longStack.packet.ShownBy network ∧ header.sourcePort = 53 ∧
      header.destinationPort = 5353 := by
  have hnames : longStack.network.NamesTransport := .inr rfl
  obtain ⟨network, transport, hread, hnetwork, htransport⟩ := read_back longStack hnames
  cases htransport with
  | udp hshown =>
    exact ⟨hnames, network, _, hread, hnetwork, hshown.sourcePort_eq, hshown.destinationPort_eq⟩

end Stack

end IngressGate
