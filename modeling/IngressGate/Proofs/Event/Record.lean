import Mathlib.Tactic.Common
import IngressGate.Bytes.Lemmas
import IngressGate.Event
/-!
# Event records

Every part of an event stands at a place of its own in the record, and is read back from there. The
one exception is the last byte of the message, which the reader takes to be zero; every message that
is written has a zero there.
-/
namespace IngressGate

namespace Bytes
variable {n width start : Nat} {bs : Vector UInt8 n}

theorem u16_ofU16 {w : UInt16} {hi lo : UInt8} (h : ofU16 w = [hi, lo]) : u16 hi lo = w := by
  have hw : w.toNat < 2 ^ 16 := w.toNat_lt
  rw [u16, ← h, ofU16, value_digits, Nat.mod_eq_of_lt (by omega), UInt16.ofNat_toNat]

theorem u64_ofU64 (w : UInt64) : u64 (ofU64 w) = w := by
  have hw : w.toNat < 2 ^ 64 := w.toNat_lt
  rw [u64, ofU64, value_digits, Nat.mod_eq_of_lt (by omega), UInt64.ofNat_toNat]

theorem toList_extract_zero : (bs.extract 0 width).toList = bs.toList.take width := by
  simp [Vector.toList, Vector.extract, Array.toList_extract, List.extract_eq_take_drop]

theorem toList_slice (h : start + width ≤ n) :
    (slice bs start width h).toList = (bs.toList.drop start).take width := by
  simp [slice, Vector.toList, Vector.extract, Array.toList_extract, List.extract_eq_take_drop]

/-- A field is what was written between the bytes before it and those behind it. -/
theorem slice_eq (before after : List UInt8) {field : Vector UInt8 width} (h : start + width ≤ n)
    (hbs : bs.toList = before ++ (field.toList ++ after)) (hstart : before.length = start) :
    slice bs start width h = field := by
  apply Vector.toList_inj.mp
  rw [toList_slice, hbs, List.drop_left' hstart, List.take_left' (by simp)]

theorem getElem_eq (before after : List UInt8) {field : Vector UInt8 width} {i : Nat}
    (hi : i < width)
    (hbs : bs.toList = before ++ (field.toList ++ after)) (hstart : before.length = start)
    (h : start + i < n) : bs[start + i] = field[i] := by
  subst hstart
  have hlength : before.length + i < bs.toList.length := by simpa using h
  have hlist : bs[before.length + i] = bs.toList[before.length + i] := by simp
  simp [hlist, hbs, List.getElem_append_left, hi]

theorem toList_padded {bs : List UInt8} (h : bs.length ≤ n) :
    (padded n bs).toList = bs ++ List.replicate (n - bs.length) 0 := by
  simp [padded, List.take_append, List.take_of_length_le h]

theorem getElem_padded_of_le {bs : List UInt8} {i : Nat} (hi : i < n) (h : bs.length ≤ i) :
    (padded n bs)[i] = 0 := by
  simp [padded, List.getElem_append_right h]

end Bytes

namespace Message

theorem length_fitting_le (room : Nat) (cs : List Char) : (fitting room cs).length ≤ room := by
  induction cs generalizing room with
  | nil => simp [fitting]
  | cons c cs ih =>
    rw [fitting]
    split
    · next hc =>
      have hrest := ih (room - c.utf8Size)
      rw [List.length_append, charBytes, String.length_utf8EncodeChar]
      omega
    · simp

theorem length_append_le {written : List UInt8} (h : written.length < size) (part : String) :
    (append written part).length < size := by
  have hpart := length_fitting_le (size - 1 - written.length) part.toList
  rw [append, List.length_append]
  omega

theorem length_foldl_append {written : List UInt8} (h : written.length < size)
    (parts : List String) : (parts.foldl append written).length < size := by
  induction parts generalizing written with
  | nil => exact h
  | cons part parts ih => exact ih (length_append_le h part)

/-- The last byte of a message field is zero. -/
theorem last_ofParts (parts : List String) : (ofParts parts)[63] = 0 := by
  have hlength : (parts.foldl append []).length ≤ 63 :=
    Nat.le_of_lt_succ (length_foldl_append (by decide) parts)
  exact Bytes.getElem_padded_of_le (by decide) hlength

end Message

namespace Event
variable (e : Event)

/-! ## Where the parts stand -/

/-- The bytes between the addresses and the message. -/
def middle : Vector UInt8 8 :=
  #v[UInt8.ofNat (e.sourcePort.toNat / 256), UInt8.ofNat e.sourcePort.toNat,
    UInt8.ofNat (e.destinationPort.toNat / 256), UInt8.ofNat e.destinationPort.toNat,
    e.protocol, e.ipVersion, e.kind.code, e.level.rank]

theorem toList_encode : e.encode.toList =
    Bytes.ofU64 e.timestamp ++ (e.source.toList ++ (e.destination.toList ++
      (e.middle.toList ++ e.message.toList))) := by
  simp [encode, middle, Vector.toList, Bytes.ofU16, Bytes.digits]

theorem timestamp_encode : Bytes.u64 (e.encode.extract 0 8).toList = e.timestamp := by
  rw [Bytes.toList_extract_zero, toList_encode, List.take_left' (Bytes.length_ofU64 _),
    Bytes.u64_ofU64]

theorem source_encode : Bytes.slice e.encode 8 16 = e.source :=
  Bytes.slice_eq (Bytes.ofU64 e.timestamp) _ (by decide) e.toList_encode (by simp)

theorem destination_encode : Bytes.slice e.encode 24 16 = e.destination :=
  Bytes.slice_eq (Bytes.ofU64 e.timestamp ++ e.source.toList) _ (by decide)
    (e.toList_encode.trans (List.append_assoc ..).symm) (by simp)

theorem getElem_encode {i : Nat} (hi : i < 8) (h : 40 + i < recordSize) :
    e.encode[40 + i] = e.middle[i] :=
  Bytes.getElem_eq (Bytes.ofU64 e.timestamp ++ (e.source.toList ++ e.destination.toList))
    e.message.toList hi (by simp [toList_encode]) (by simp) h

theorem message_encode : Bytes.slice e.encode 48 Message.size = e.message :=
  Bytes.slice_eq
    (Bytes.ofU64 e.timestamp ++ (e.source.toList ++ (e.destination.toList ++ e.middle.toList))) []
    (by decide) (by simp [toList_encode]) (by simp)

/-! ## Reading a record anew -/

/-- Reading a record gives the event that was written, up to the last byte of the message. -/
theorem ofRecord_encode : ofRecord e.encode = .ok { e with message := e.message.set 63 0 } := by
  have hsourcePort : Bytes.u16 e.encode[40] e.encode[41] = e.sourcePort := by
    have hhi := e.getElem_encode (i := 0) (by decide) (by decide)
    have hlo := e.getElem_encode (i := 1) (by decide) (by decide)
    rw [hhi, hlo]
    exact Bytes.u16_ofU16 rfl
  have hdestinationPort : Bytes.u16 e.encode[42] e.encode[43] = e.destinationPort := by
    have hhi := e.getElem_encode (i := 2) (by decide) (by decide)
    have hlo := e.getElem_encode (i := 3) (by decide) (by decide)
    rw [hhi, hlo]
    exact Bytes.u16_ofU16 rfl
  have hprotocol : e.encode[44] = e.protocol := e.getElem_encode (i := 4) (by decide) (by decide)
  have hversion : e.encode[45] = e.ipVersion := e.getElem_encode (i := 5) (by decide) (by decide)
  have hkind : e.encode[46] = e.kind.code := e.getElem_encode (i := 6) (by decide) (by decide)
  have hlevel : e.encode[47] = e.level.rank := e.getElem_encode (i := 7) (by decide) (by decide)
  simp only [ofRecord, hkind, hlevel, EventKind.ofCode?_code, Level.ofRank?_rank,
    timestamp_encode, source_encode, destination_encode, message_encode,
    hsourcePort, hdestinationPort, hprotocol, hversion]
  rfl

theorem decode_toList (r : Record) : decode r.toList = ofRecord r := by
  have hlength : recordSize ≤ r.toList.length := by simp
  have htake : r.toList.take recordSize = r.toList := List.take_of_length_le (by simp)
  rw [decode, dif_pos hlength]
  congr 1
  apply Vector.toList_inj.mp
  exact htake

variable {e}

/-- **What is written is read back**, for every event whose message ends in a zero byte. -/
theorem decode_encode (h : e.message[63] = 0) : decode e.encode.toList = .ok e := by
  have hmessage : e.message.set 63 0 = e.message := by
    rw [← h, Vector.set_getElem_self]
  rw [decode_toList, ofRecord_encode, hmessage]

end Event

end IngressGate
