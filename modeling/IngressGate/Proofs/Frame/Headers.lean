import IngressGate.Frame.Ethernet
import IngressGate.Frame.Ipv4
import IngressGate.Frame.Transport
import IngressGate.Proofs.Frame.Reading
/-!
# What the header readers do

One equation for each reader of a header of bounded size: in which order its checks come, what each
failure reports, where it leaves the cursor, and which bytes the header that it accepts is made of.
-/
namespace IngressGate

open Bytes

namespace Ethernet

/-- The header of a frame without a tag. -/
def Header.untagged (bs : List UInt8) : Header where
  destination := ⟨fieldAt bs 0 6⟩
  source := ⟨fieldAt bs 6 6⟩
  tag := none
  etherType := wordAt bs 12

/-- The header of a frame with a tag. -/
def Header.tagged (bs : List UInt8) : Header where
  destination := ⟨fieldAt bs 0 6⟩
  source := ⟨fieldAt bs 6 6⟩
  tag := some ⟨wordAt bs 14⟩
  etherType := wordAt bs 16

theorem read_eq (c : Cursor) :
    read c =
      if c.remaining < 14 then .error (.truncated "ethernet" 14 c.remaining) c
      else if wordAt c.rest 12 = 0x8100 then
        if c.remaining < 18 then
          .error (.truncated "vlan" 4 (c.remaining - 14)) (c.advance 14)
        else .ok (.tagged c.rest) (c.advance 18)
      else .ok (.untagged c.rest) (c.advance 14) := by
  by_cases h14 : c.remaining < 14
  · rw [if_pos h14, read, Reader.bind_of_error (Reader.take_of_lt h14)]
  have hle : 14 ≤ c.remaining := Nat.le_of_not_lt h14
  have houter : u16 (c.front 14 hle)[12] (c.front 14 hle)[13] = wordAt c.rest 12 := by
    simp [wordAt]
  rw [if_neg h14, read, Reader.bind_of_ok (Reader.take_of_le hle)]
  by_cases htag : wordAt c.rest 12 = 0x8100
  · have hvlan : u16 (c.front 14 hle)[12] (c.front 14 hle)[13] = EtherType.vlan.code :=
      houter.trans htag
    have hrem : (c.advance 14).remaining = c.remaining - 14 := Cursor.remaining_advance c 14
    rw [if_pos htag, if_pos hvlan]
    by_cases h18 : c.remaining < 18
    · rw [if_pos h18, Reader.bind_of_error (Reader.take_of_lt (by omega)), hrem]
    · rw [if_neg h18, Reader.bind_of_ok (Reader.take_of_le (by omega)), Reader.pure_apply]
      simp [Header.tagged, Cursor.slice_front, Cursor.advance_advance, wordAt]
  · have hplain : ¬ u16 (c.front 14 hle)[12] (c.front 14 hle)[13] = EtherType.vlan.code :=
      fun h => htag (houter.symm.trans h)
    rw [if_neg htag, if_neg hplain, Reader.pure_apply]
    simp [Header.untagged, Cursor.slice_front, wordAt]

theorem stable_read : Reader.Stable read := by
  refine (Reader.Stable.take "ethernet" 14).bind fun b => ?_
  dsimp only
  split
  · exact (Reader.Stable.take "vlan" 4).bind fun _ => Reader.Stable.pure _
  · exact Reader.Stable.pure _

end Ethernet

namespace Ipv4

/-- The header at the start of `bs`. -/
def Header.ofBytes (bs : List UInt8) : Header where
  version := byteAt bs 0 >>> 4
  headerWords := byteAt bs 0 &&& 0x0F
  totalLength := wordAt bs 2
  fragmentOffset := u16 (byteAt bs 6 &&& 0x1F) (byteAt bs 7)
  timeToLive := byteAt bs 8
  protocol := byteAt bs 9
  source := ⟨fieldAt bs 12 4⟩
  destination := ⟨fieldAt bs 16 4⟩

theorem ofFixed_front {c : Cursor} (h : 20 ≤ c.remaining) :
    Header.ofFixed (c.front 20 h) = .ofBytes c.rest := by
  simp [Header.ofFixed, Header.ofBytes, Cursor.slice_front, wordAt]

theorem length_ofBytes (bs : List UInt8) :
    (Header.ofBytes bs).length = 4 * ((byteAt bs 0).toNat % 16) := by
  rw [Header.length, Header.ofBytes, toNat_and_fifteen]

theorem isLaterFragment_ofBytes (bs : List UInt8) :
    (Header.ofBytes bs).isLaterFragment = decide ((wordAt bs 6).toNat % 8192 ≠ 0) := by
  simp only [Header.isLaterFragment, Header.ofBytes, wordAt, ne_eq, ← UInt16.toNat_inj,
    toNat_u16_and]
  rfl

theorem version_ofBytes_ne_four (bs : List UInt8) :
    (Header.ofBytes bs).version ≠ 4 ↔ (byteAt bs 0).toNat / 16 ≠ 4 := by
  rw [← toNat_shiftRight_four, Header.ofBytes, ne_eq, ← UInt8.toNat_inj]
  rfl

theorem read_eq (c : Cursor) :
    read c =
      if c.remaining < 20 then .error (.truncated "ipv4" 20 c.remaining) c
      else if (byteAt c.rest 0).toNat / 16 ≠ 4 then .error (.malformed .ipv4Version) c
      else if (byteAt c.rest 0).toNat % 16 < 5 then .error (.malformed .ipv4HeaderLength) c
      else if c.remaining < 4 * ((byteAt c.rest 0).toNat % 16) then
        .error (.truncated "ipv4" (4 * ((byteAt c.rest 0).toNat % 16)) c.remaining) c
      else .ok (.ofBytes c.rest) (c.advance (4 * ((byteAt c.rest 0).toNat % 16))) := by
  by_cases h20 : c.remaining < 20
  · rw [if_pos h20, read, Reader.bind_of_error (Reader.peek_of_lt h20)]
  rw [if_neg h20, read, Reader.bind_of_ok (Reader.peek_of_le (Nat.le_of_not_lt h20)),
    ofFixed_front]
  simp only [version_ofBytes_ne_four, length_ofBytes]
  by_cases hversion : (byteAt c.rest 0).toNat / 16 ≠ 4
  · rw [if_pos hversion, if_pos hversion, Reader.reject_apply]
  rw [if_neg hversion, if_neg hversion]
  by_cases hwords : (byteAt c.rest 0).toNat % 16 < 5
  · rw [if_pos hwords, if_pos (by omega), Reader.reject_apply]
  rw [if_neg hwords, if_neg (by omega)]
  by_cases hlength : c.remaining < 4 * ((byteAt c.rest 0).toNat % 16)
  · rw [if_pos hlength, Reader.bind_of_error (Reader.skip_of_lt hlength)]
  · rw [if_neg hlength, Reader.bind_of_ok (Reader.skip_of_le (Nat.le_of_not_lt hlength)),
      Reader.pure_apply]

theorem stable_read : Reader.Stable read := by
  refine (Reader.Stable.peek "ipv4" 20).bind fun b => ?_
  dsimp only
  split
  · exact Reader.Stable.reject _
  split
  · exact Reader.Stable.reject _
  · exact (Reader.Stable.skip "ipv4" _).bind fun _ => Reader.Stable.pure _

end Ipv4

namespace Tcp

/-- The fixed part of the header at the start of `bs`. -/
def Header.ofBytes (bs : List UInt8) : Header where
  sourcePort := wordAt bs 0
  destinationPort := wordAt bs 2
  dataOffset := byteAt bs 12 >>> 4
  flags := byteAt bs 13

theorem read_eq (c : Cursor) :
    read c =
      if c.remaining < 20 then .error (.truncated "tcp" 20 c.remaining) c
      else if (byteAt c.rest 12).toNat / 16 < 5 then
        .error (.malformed .tcpDataOffset) (c.advance 20)
      else .ok (.ofBytes c.rest) (c.advance 20) := by
  by_cases h20 : c.remaining < 20
  · rw [if_pos h20, read, Reader.bind_of_error (Reader.take_of_lt h20)]
  rw [if_neg h20, read, Reader.bind_of_ok (Reader.take_of_le (Nat.le_of_not_lt h20))]
  simp only [Cursor.getElem_front, toNat_shiftRight_four]
  by_cases hoffset : (byteAt c.rest 12).toNat / 16 < 5
  · rw [if_pos hoffset, if_pos (by omega), Reader.reject_apply]
  · rw [if_neg hoffset, if_neg (by omega)]
    simp [portsAt, Reader.pure_apply, Header.ofBytes, wordAt]

theorem stable_read : Reader.Stable read := by
  refine (Reader.Stable.take "tcp" 20).bind fun b => ?_
  dsimp only
  split
  · exact Reader.Stable.reject _
  · exact Reader.Stable.pure _

end Tcp

namespace Udp

/-- The header at the start of `bs`. -/
def Header.ofBytes (bs : List UInt8) : Header where
  sourcePort := wordAt bs 0
  destinationPort := wordAt bs 2
  length := wordAt bs 4

theorem read_eq (c : Cursor) :
    read c =
      if c.remaining < 8 then .error (.truncated "udp" 8 c.remaining) c
      else .ok (.ofBytes c.rest) (c.advance 8) := by
  by_cases h8 : c.remaining < 8
  · rw [if_pos h8, read, Reader.bind_of_error (Reader.take_of_lt h8)]
  · rw [if_neg h8, read, Reader.bind_of_ok (Reader.take_of_le (Nat.le_of_not_lt h8))]
    simp [portsAt, Reader.pure_apply, Header.ofBytes, wordAt]

theorem stable_read : Reader.Stable read :=
  (Reader.Stable.take "udp" 8).bind fun _ => Reader.Stable.pure _

end Udp

end IngressGate
