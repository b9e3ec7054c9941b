import Mathlib.Tactic.Common
import IngressGate.Proofs.Frame.Headers
import IngressGate.Proofs.Frame.Ipv6
/-!
# What is written is read back

For every layer, a reader that comes to what the writer of that layer has written finds all its
fields, and stops where the payload begins. The payload is any bytes whatever.
-/
namespace IngressGate

open Bytes

namespace Ethernet
variable {f : Frame} {tag : VlanTag}

theorem encode_untagged (h : f.tag = none) :
    f.encode = f.destination.octets.toList ++ f.source.octets.toList ++ ofU16 f.etherType ++
      f.payload := by
  simp [Frame.encode, encodeTag, h]

theorem encode_tagged (h : f.tag = some tag) :
    f.encode = f.destination.octets.toList ++ f.source.octets.toList ++ ofU16 0x8100 ++
      ofU16 tag.control ++ ofU16 f.etherType ++ f.payload := by
  simp [Frame.encode, encodeTag, h, EtherType.code]

/-- A frame without a tag is read back, unless its type announces one. -/
theorem read_encode_untagged (htag : f.tag = none) (htype : f.etherType ≠ 0x8100) (p : Nat) :
    read ⟨p, f.encode⟩ = .ok ⟨f.destination, f.source, none, f.etherType⟩ ⟨p + 14, f.payload⟩ := by
  have hlength : ¬ (Cursor.mk p f.encode).remaining < 14 := by
    simp [Cursor.remaining, encode_untagged htag]
    omega
  have houter : wordAt f.encode 12 = f.etherType := by
    simp (disch := simp) [encode_untagged htag, wordAt_append_left, wordAt_append_right]
  have hrest : f.encode.drop 14 = f.payload := by
    rw [encode_untagged htag]
    exact List.drop_left' (by simp)
  rw [read_eq, if_neg hlength, if_neg (by rwa [houter]), Header.untagged, Cursor.advance, houter,
    hrest]
  simp (disch := simp) [encode_untagged htag, fieldAt_append_left, fieldAt_append_right]

/-- A frame with a tag is read back, whatever its type. -/
theorem read_encode_tagged (htag : f.tag = some tag) (p : Nat) :
    read ⟨p, f.encode⟩ =
      .ok ⟨f.destination, f.source, some tag, f.etherType⟩ ⟨p + 18, f.payload⟩ := by
  have hlength : ¬ (Cursor.mk p f.encode).remaining < 18 := by
    simp [Cursor.remaining, encode_tagged htag]
    omega
  have houter : wordAt f.encode 12 = 0x8100 := by
    simp (disch := simp) [encode_tagged htag, wordAt_append_left, wordAt_append_right]
  have hrest : f.encode.drop 18 = f.payload := by
    rw [encode_tagged htag]
    exact List.drop_left' (by simp)
  rw [read_eq, if_neg (by omega), if_pos houter, if_neg hlength, Header.tagged, Cursor.advance,
    hrest]
  simp (disch := simp) [encode_tagged htag, wordAt_append_left, wordAt_append_right,
    fieldAt_append_left, fieldAt_append_right]

end Ethernet

namespace Ipv4

/-- The header of a packet that was written. -/
def Packet.toHeader (p : Packet) : Header where
  version := 4
  headerWords := 5
  totalLength := .ofNat (20 + p.payload.length)
  fragmentOffset := p.offsetField
  timeToLive := p.timeToLive
  protocol := p.protocol
  source := p.source
  destination := p.destination

theorem length_header (p : Packet) (check : UInt16) : (p.header check).length = 20 := by
  simp [Packet.header]

/-- The flags do not get into the offset. -/
theorem Packet.offset_flagsField (p : Packet) :
    u16 (byteAt (ofU16 p.flagsField) 0 &&& 0x1F) (byteAt (ofU16 p.flagsField) 1) =
      p.offsetField := by
  have hoffset : p.offsetField.toNat < 8192 := by
    rw [Packet.offsetField, UInt16.toNat_and]
    exact Nat.and_lt_two_pow _ (show (0x1FFF : UInt16).toNat < 2 ^ 13 by decide)
  have hflags : p.flagsField.toNat % 8192 = p.offsetField.toNat := by
    -- The flag of an unfragmented packet lies above the thirteen bits of the offset.
    rw [Packet.flagsField]
    split
    · next h => rw [h]; rfl
    · exact Nat.mod_eq_of_lt hoffset
  rw [← UInt16.toNat_inj, toNat_u16_and, ← hflags]
  exact congrArg (·.toNat % 8192) (wordAt_ofU16 p.flagsField)

theorem ofBytes_header (p : Packet) (check : UInt16) (x : List UInt8) :
    Header.ofBytes (p.header check ++ x) = p.toHeader := by
  -- No field of the header is taken from the bytes of the checksum.
  simp (disch := simp) only [Header.ofBytes, Packet.header, fieldAt_append_left,
    fieldAt_append_right, wordAt_append_left, wordAt_append_right, byteAt_append_left,
    byteAt_append_right, List.length_append, List.length_cons, List.length_nil, length_ofU16,
    Vector.length_toList, Nat.reduceAdd, Nat.reduceSub, p.offset_flagsField]
  have hversion : (0x45 : UInt8) >>> 4 = 4 := rfl
  have hwords : (0x45 : UInt8) &&& 0x0F = 5 := rfl
  simp [byteAt, Packet.toHeader, hversion, hwords]

/-- A packet is read back, whatever its checksum. -/
theorem read_encode (p : Packet) (i : Nat) :
    read ⟨i, p.encode⟩ = .ok p.toHeader ⟨i + 20, p.payload⟩ := by
  have hlength : ¬ (Cursor.mk i p.encode).remaining < 20 := by
    simp [Cursor.remaining, Packet.encode, length_header]
  have hfirst : byteAt p.encode 0 = 0x45 := by simp [Packet.encode, Packet.header, byteAt]
  have hheader : Header.ofBytes p.encode = p.toHeader := ofBytes_header p _ _
  have hrest : p.encode.drop 20 = p.payload := List.drop_left' (length_header p _)
  rw [read_eq, if_neg hlength, if_neg (by simp [hfirst]), if_neg (by simp [hfirst]),
    if_neg (by simpa [hfirst] using hlength), hheader, hfirst]
  change EStateM.Result.ok p.toHeader (Cursor.mk (i + 20) (p.encode.drop 20)) = _
  rw [hrest]

/-- What is written without an offset is no later fragment. -/
theorem isLaterFragment_toHeader {p : Packet} (h : p.fragmentOffset = 0) :
    p.toHeader.isLaterFragment = false := by
  simp [Header.isLaterFragment, Packet.toHeader, Packet.offsetField, h]

end Ipv4

namespace Ipv6

/-- The header of a packet that was written. -/
def Packet.toHeader (p : Packet) : Header where
  version := 6
  payloadLength := .ofNat p.payload.length
  nextHeader := p.nextHeader
  hopLimit := p.hopLimit
  source := p.source
  destination := p.destination

/-- The header at the start of `bs`. -/
def Header.ofBytes (bs : List UInt8) : Header where
  version := byteAt bs 0 >>> 4
  payloadLength := wordAt bs 4
  nextHeader := byteAt bs 6
  hopLimit := byteAt bs 7
  source := ⟨fieldAt bs 8 16⟩
  destination := ⟨fieldAt bs 24 16⟩

theorem ofFixed_front {c : Cursor} (h : 40 ≤ c.remaining) :
    Header.ofFixed (c.front 40 h) = .ofBytes c.rest := by
  simp [Header.ofFixed, Header.ofBytes, Cursor.slice_front, wordAt]

theorem ofBytes_encode (p : Packet) : Header.ofBytes p.encode = p.toHeader := by
  simp (disch := simp) only [Header.ofBytes, Packet.encode, fieldAt_append_left,
    fieldAt_append_right, wordAt_append_left, wordAt_append_right, byteAt_append_left,
    byteAt_append_right, List.length_append, List.length_cons, List.length_nil, length_ofU16,
    Vector.length_toList, Nat.reduceAdd, Nat.reduceSub]
  have hversion : (0x60 : UInt8) >>> 4 = 6 := rfl
  simp [byteAt, Packet.toHeader, hversion]

/-- A packet is read back if its payload is one of the upper layer. -/
theorem read_encode {p : Packet} (hext : p.nextHeader ∉ extensionTypes)
    (href : p.nextHeader ∉ refusedTypes) (i : Nat) :
    read ⟨i, p.encode⟩ = .ok ⟨p.toHeader, p.nextHeader, 0, false⟩ ⟨i + 40, p.payload⟩ := by
  have hlength : 40 ≤ (Cursor.mk i p.encode).remaining := by
    simp [Cursor.remaining, Packet.encode]
    omega
  have hversion : (byteAt p.encode 0).toNat / 16 = 6 := by simp [Packet.encode, byteAt]
  have hnext : byteAt p.encode 6 = p.nextHeader := congrArg (·.nextHeader) (ofBytes_encode p)
  have hrest : p.encode.drop 40 = p.payload := by
    rw [Packet.encode]
    exact List.drop_left' (by simp)
  rw [read_of_version hlength hversion, ofFixed_front, ofBytes_encode, hnext,
    Reader.bind_of_ok (Chain.read_of_upperLayer hext href), Reader.pure_apply]
  change EStateM.Result.ok _ (Cursor.mk (i + 40) (p.encode.drop 40)) = _
  rw [hrest]

end Ipv6

namespace Tcp

/-- The header of a segment that was written. -/
def Segment.toHeader (s : Segment) : Header := ⟨s.sourcePort, s.destinationPort, 5, s.flags⟩

theorem ofBytes_encode (s : Segment) : Header.ofBytes s.encode = s.toHeader := by
  simp (disch := simp) only [Header.ofBytes, Segment.encode, wordAt_append_left,
    wordAt_append_right, byteAt_append_left, byteAt_append_right, List.length_append,
    length_ofU16, List.length_replicate, Nat.reduceAdd, Nat.reduceSub]
  have hoffset : (0x50 : UInt8) >>> 4 = 5 := rfl
  simp [byteAt, Segment.toHeader, hoffset]

/-- A segment is read back. -/
theorem read_encode (s : Segment) (i : Nat) :
    read ⟨i, s.encode⟩ = .ok s.toHeader ⟨i + 20, s.payload⟩ := by
  have hlength : ¬ (Cursor.mk i s.encode).remaining < 20 := by
    simp [Cursor.remaining, Segment.encode]
    omega
  have hoffset : ¬ (byteAt s.encode 12).toNat / 16 < 5 := by
    have hfive : byteAt s.encode 12 >>> 4 = 5 := congrArg (·.dataOffset) (ofBytes_encode s)
    simp [← toNat_shiftRight_four, hfive]
  have hrest : s.encode.drop 20 = s.payload := by
    rw [Segment.encode]
    exact List.drop_left' (by simp)
  rw [read_eq, if_neg hlength, if_neg hoffset, ofBytes_encode, Cursor.advance, hrest]

end Tcp

namespace Udp

/-- The header of a datagram that was written. -/
def Datagram.toHeader (d : Datagram) : Header :=
  ⟨d.sourcePort, d.destinationPort, .ofNat (8 + d.payload.length)⟩

theorem ofBytes_encode (d : Datagram) : Header.ofBytes d.encode = d.toHeader := by
  simp (disch := simp) only [Header.ofBytes, Datagram.encode, wordAt_append_left,
    wordAt_append_right, List.length_append, length_ofU16, Nat.reduceAdd, Nat.reduceSub]
  simp [Datagram.toHeader]

/-- A datagram is read back. -/
theorem read_encode (d : Datagram) (i : Nat) :
    read ⟨i, d.encode⟩ = .ok d.toHeader ⟨i + 8, d.payload⟩ := by
  have hlength : ¬ (Cursor.mk i d.encode).remaining < 8 := by
    simp [Cursor.remaining, Datagram.encode]
    omega
  have hrest : d.encode.drop 8 = d.payload := by
    rw [Datagram.encode]
    exact List.drop_left' (by simp)
  rw [read_eq, if_neg hlength, ofBytes_encode, Cursor.advance, hrest]

end Udp

end IngressGate
