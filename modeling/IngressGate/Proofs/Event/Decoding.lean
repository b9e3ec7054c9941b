import Mathlib.Tactic.IntervalCases
import IngressGate.Proofs.Bytes.Offset
import IngressGate.Proofs.Event.Message
/-!
# Reading event records

What the reader does with each byte string, and that nothing is lost on the way from an event to its
record and back. The two directions differ in one byte: the reader takes the last byte of the
message to be zero, whatever stands there.
-/
namespace IngressGate

namespace Bytes

theorem getElem_slice {n start width i : Nat} (b : Vector UInt8 n) (h : start + width ≤ n)
    (hi : i < width) : (slice b start width h)[i] = b[start + i] := by
  simp [slice]

/-- A field stands before what comes behind it. -/
theorem slice_append_drop {n start width : Nat} (b : Vector UInt8 n) (h : start + width ≤ n) :
    (slice b start width h).toList ++ b.toList.drop (start + width) = b.toList.drop start := by
  rw [toList_slice, ← List.drop_drop, List.take_append_drop]

end Bytes

/-! ## The numbers of kinds and levels -/

/-- The numbers that stand for a kind. -/
def EventKind.IsCode (n : UInt8) : Prop := 1 ≤ n ∧ n ≤ 5

/-- The numbers that stand for a level. -/
def Level.IsRank (n : UInt8) : Prop := n ≤ 3

theorem EventKind.ofCode?_cases (n : UInt8) :
    (¬IsCode n ∧ ofCode? n = none) ∨ ∃ k, IsCode n ∧ n = code k ∧ ofCode? n = some k := by
  cases h : ofCode? n with
  | none => exact .inl ⟨by grind [ofCode?, IsCode], rfl⟩
  | some k => exact .inr ⟨k, by cases k <;> grind [ofCode?, IsCode, code]⟩

theorem Level.ofRank?_cases (n : UInt8) :
    (¬IsRank n ∧ ofRank? n = none) ∨ ∃ l, IsRank n ∧ n = rank l ∧ ofRank? n = some l := by
  cases h : ofRank? n with
  | none => exact .inl ⟨by grind [ofRank?, IsRank], rfl⟩
  | some l => exact .inr ⟨l, by cases l <;> grind [ofRank?, IsRank, rank]⟩

namespace Event

/-! ## What the reader does -/

/-- An event has its parts from their places in the record, its message up to the last byte. -/
structure ReadFrom (b : Record) (e : Event) : Prop where
  timestamp : e.timestamp = Bytes.u64 (b.extract 0 8).toList
  source : e.source = Bytes.slice b 8 16
  destination : e.destination = Bytes.slice b 24 16
  sourcePort : e.sourcePort = Bytes.u16 b[40] b[41]
  destinationPort : e.destinationPort = Bytes.u16 b[42] b[43]
  protocol : e.protocol = b[44]
  ipVersion : e.ipVersion = b[45]
  kind : e.kind.code = b[46]
  level : e.level.rank = b[47]
  message : e.message = (Bytes.slice b 48 Message.size).set 63 0

/-- All that can come of reading a record. -/
theorem ofRecord_cases (b : Record) :
    (¬EventKind.IsCode b[46] ∧ ofRecord b = .error (.malformed .recordKind)) ∨
    (EventKind.IsCode b[46] ∧ ¬Level.IsRank b[47] ∧
      ofRecord b = .error (.malformed .recordLevel)) ∨
    ∃ e, EventKind.IsCode b[46] ∧ Level.IsRank b[47] ∧ ReadFrom b e ∧ ofRecord b = .ok e := by
  obtain ⟨hunknown, hkind⟩ | ⟨kind, hcode, hkindCode, hkind⟩ := EventKind.ofCode?_cases b[46]
  · exact .inl ⟨hunknown, by rw [ofRecord, hkind]; rfl⟩
  · obtain ⟨hunknown, hlevel⟩ | ⟨level, hrank, hlevelRank, hlevel⟩ := Level.ofRank?_cases b[47]
    · exact .inr (.inl ⟨hcode, hunknown, by rw [ofRecord, hkind, hlevel]; rfl⟩)
    · refine .inr (.inr ⟨_, hcode, hrank, ?_, by rw [ofRecord, hkind, hlevel]; rfl⟩)
      exact ⟨rfl, rfl, rfl, rfl, rfl, rfl, rfl, hkindCode.symm, hlevelRank.symm, rfl⟩

/-- A byte string that is long enough begins with a record. -/
theorem decode_eq_ofRecord {bs : List UInt8} (h : recordSize ≤ bs.length) :
    ∃ b : Record, b.toList = bs.take recordSize ∧ decode bs = ofRecord b :=
  ⟨⟨(bs.take recordSize).toArray, by simp [h]⟩, rfl, dif_pos h⟩

/-- A record is its fields, one behind the other. -/
theorem toList_eq_fields (b : Record) :
    b.toList = (b.extract 0 8).toList ++ ((Bytes.slice b 8 16).toList ++
      ((Bytes.slice b 24 16).toList ++ ((Bytes.slice b 40 8).toList ++
        (Bytes.slice b 48 Message.size).toList))) := by
  have hend : b.toList.drop (48 + Message.size) = [] :=
    List.drop_of_length_le (by rw [b.length_toList]; decide)
  have hmessage : (Bytes.slice b 48 Message.size).toList ++ b.toList.drop (48 + Message.size) =
      b.toList.drop 48 := Bytes.slice_append_drop b (by decide)
  rw [hend, List.append_nil] at hmessage
  rw [hmessage, Bytes.slice_append_drop, Bytes.slice_append_drop, Bytes.slice_append_drop,
    Bytes.toList_extract_zero, List.take_append_drop]

namespace ReadFrom
variable {b : Record} {e : Event}

theorem middle_eq (h : ReadFrom b e) : e.middle = Bytes.slice b 40 8 := by
  have hsource := Bytes.ofU16_u16 b[40] b[41]
  have hdestination := Bytes.ofU16_u16 b[42] b[43]
  rw [← h.sourcePort] at hsource
  rw [← h.destinationPort] at hdestination
  simp only [Bytes.ofU16, Bytes.digits, List.nil_append, List.cons_append, List.cons.injEq,
    and_true] at hsource hdestination
  apply Vector.ext
  intro i hi
  rw [Bytes.getElem_slice]
  interval_cases i
  · exact hsource.1
  · exact hsource.2
  · exact hdestination.1
  · exact hdestination.2
  · exact h.protocol
  · exact h.ipVersion
  · exact h.kind
  · exact h.level

/-- The record that an event was read from is written again, up to the last byte. -/
theorem toList_encode_eq (h : ReadFrom b e) : e.encode.toList = b.toList.set 111 0 := by
  have htimestamp : Bytes.ofU64 (Bytes.u64 (b.extract 0 8).toList) = (b.extract 0 8).toList :=
    Bytes.ofU64_u64 (by simp [recordSize])
  have hmessage : ((Bytes.slice b 48 Message.size).set 63 0).toList =
      (Bytes.slice b 48 Message.size).toList.set 63 0 :=
    Vector.toList_set (by decide)
  rw [toList_encode, h.middle_eq, h.timestamp, h.source, h.destination, h.message, htimestamp,
    hmessage, toList_eq_fields b]
  repeat rw [List.set_append_right _ _ (by simp [recordSize])]
  simp [recordSize]

theorem last_message (h : ReadFrom b e) : e.message[63] = 0 := by
  rw [h.message]
  exact Vector.getElem_set_self (by decide)

end ReadFrom

/-- All that can come of reading a byte string. -/
theorem decode_cases (bs : List UInt8) :
    (bs.length < 112 ∧ decode bs = .error (.truncated "log record" 112 bs.length)) ∨
    112 ≤ bs.length ∧
      ((¬EventKind.IsCode (Bytes.byteAt bs 46) ∧ decode bs = .error (.malformed .recordKind)) ∨
      (EventKind.IsCode (Bytes.byteAt bs 46) ∧ ¬Level.IsRank (Bytes.byteAt bs 47) ∧
        decode bs = .error (.malformed .recordLevel)) ∨
      ∃ e, EventKind.IsCode (Bytes.byteAt bs 46) ∧ Level.IsRank (Bytes.byteAt bs 47) ∧
        decode bs = .ok e ∧ e.message[63] = 0 ∧ e.encode.toList = (bs.take 112).set 111 0) := by
  by_cases hlength : recordSize ≤ bs.length
  · refine .inr ⟨hlength, ?_⟩
    obtain ⟨b, hb, hdecode⟩ := decode_eq_ofRecord hlength
    have hkindByte : Bytes.byteAt bs 46 = b[46] := by
      rw [← Bytes.byteAt_toList b (by decide), hb]
      simp [Bytes.byteAt, recordSize]
    have hlevelByte : Bytes.byteAt bs 47 = b[47] := by
      rw [← Bytes.byteAt_toList b (by decide), hb]
      simp [Bytes.byteAt, recordSize]
    rw [hkindByte, hlevelByte, hdecode]
    obtain hunknown | hunknown | ⟨e, hcode, hrank, hread, hok⟩ := ofRecord_cases b
    · exact .inl hunknown
    · exact .inr (.inl hunknown)
    · refine .inr (.inr ⟨e, hcode, hrank, hok, hread.last_message, ?_⟩)
      rw [hread.toList_encode_eq, hb, recordSize]
  · exact .inl ⟨Nat.lt_of_not_le hlength, dif_neg hlength⟩

/-- What comes of reading a byte string is decided by its length, the byte of the kind and the byte
of the level, in this order. -/
structure ReadByLayout (bs : List UInt8) : Prop where
  truncated_iff : decode bs = .error (.truncated "log record" 112 bs.length) ↔ bs.length < 112
  unknownKind_iff : 112 ≤ bs.length →
    (decode bs = .error (.malformed .recordKind) ↔ ¬EventKind.IsCode (Bytes.byteAt bs 46))
  unknownLevel_iff : 112 ≤ bs.length → EventKind.IsCode (Bytes.byteAt bs 46) →
    (decode bs = .error (.malformed .recordLevel) ↔ ¬Level.IsRank (Bytes.byteAt bs 47))
  accepted : 112 ≤ bs.length → EventKind.IsCode (Bytes.byteAt bs 46) →
    Level.IsRank (Bytes.byteAt bs 47) →
    ∃ e, decode bs = .ok e ∧ e.encode.toList = (bs.take 112).set 111 0

theorem readByLayout (bs : List UInt8) : ReadByLayout bs := by
  obtain ⟨hshort, hdecode⟩ | ⟨hlong, ⟨hcode, hdecode⟩ | ⟨hcode, hrank, hdecode⟩ |
    ⟨e, hcode, hrank, hdecode, -, hencode⟩⟩ := decode_cases bs
  · exact ⟨by simp [hdecode, hshort], by omega, by omega, by omega⟩
  · exact ⟨by simp [hdecode, hlong], by simp [hdecode, hcode], fun _ h => absurd h hcode,
      fun _ h => absurd h hcode⟩
  · exact ⟨by simp [hdecode, hlong], by simp [hdecode, hcode], by simp [hdecode, hrank],
      fun _ _ h => absurd h hrank⟩
  · exact ⟨by simp [hdecode, hlong], by simp [hdecode, hcode], by simp [hdecode, hrank],
      fun _ _ _ => ⟨e, hdecode, hencode⟩⟩

theorem of_decode_eq_ok {bs : List UInt8} {e : Event} (h : decode bs = .ok e) :
    e.message[63] = 0 ∧ e.encode.toList = bs.take 111 ++ [0] := by
  obtain ⟨-, hdecode⟩ | ⟨hlong, ⟨-, hdecode⟩ | ⟨-, -, hdecode⟩ |
    ⟨d, -, -, hdecode, hlast, hencode⟩⟩ := decode_cases bs <;> rw [h] at hdecode <;> cases hdecode
  refine ⟨hlast, hencode.trans ?_⟩
  rw [List.set_eq_take_append_cons_drop, if_pos (by rw [List.length_take]; omega), List.take_take,
    List.drop_of_length_le (by simp), Nat.min_eq_left (by decide)]

/-- Records are read as the same event when they agree on all bytes but the last. -/
theorem eq_iff_take_eq {bs cs : List UInt8} {d e : Event} (hd : decode bs = .ok d)
    (he : decode cs = .ok e) : d = e ↔ bs.take 111 = cs.take 111 := by
  obtain ⟨hlastd, hencoded⟩ := of_decode_eq_ok hd
  obtain ⟨hlaste, hencodee⟩ := of_decode_eq_ok he
  constructor
  · rintro rfl
    exact List.append_cancel_right (hencoded.symm.trans hencodee)
  · intro h
    have hrecord : d.encode.toList = e.encode.toList := by rw [hencoded, hencodee, h]
    have hdecode := decode_encode hlastd
    rw [hrecord, decode_encode hlaste] at hdecode
    exact (Except.ok.inj hdecode).symm

/-! ## Events that the program makes -/

/-- An event with a text, or one that was written part by part, to which addresses, a protocol,
ports and a time may have been added. -/
inductive Written : Event → Prop
  | ofText (kind : EventKind) (level : Level) (text : String) : Written (.ofText kind level text)
  | ofParts (kind : EventKind) (level : Level) (parts : List String) :
    Written (.ofParts kind level parts)
  | withIpv4 {e : Event} (source destination : Ipv4Address) (h : Written e) :
    Written (e.withIpv4 source destination)
  | withIpv6 {e : Event} (source destination : Ipv6Address) (h : Written e) :
    Written (e.withIpv6 source destination)
  | withProtocol {e : Event} (protocol : UInt8) (h : Written e) : Written (e.withProtocol protocol)
  | withPorts {e : Event} (sourcePort destinationPort : UInt16) (h : Written e) :
    Written (e.withPorts sourcePort destinationPort)
  | withTimestamp {e : Event} (timestamp : UInt64) (h : Written e) :
    Written (e.withTimestamp timestamp)

/-- Whatever is added to an event, its message stays as it was written. -/
theorem Written.message_eq {e : Event} (h : e.Written) :
    ∃ parts, e.message = Message.ofParts parts := by
  induction h with
  | ofText kind level text => exact ⟨[text], rfl⟩
  | ofParts kind level parts => exact ⟨parts, rfl⟩
  | withIpv4 source destination h ih => exact ih
  | withIpv6 source destination h ih => exact ih
  | withProtocol protocol h ih => exact ih
  | withPorts sourcePort destinationPort h ih => exact ih
  | withTimestamp timestamp h ih => exact ih

/-- **Records carry events faithfully, both ways.** An event that the program made or read is read
back from its record as it was, text and addresses included, and the message of one that it made is
always valid UTF-8 up to its first NUL. A byte string is refused for its length, kind or level
alone, and is otherwise the record of what is read from it but for byte 111. -/
theorem record_faithful :
    (∀ e : Event, (e.Written ∨ ∃ bs, decode bs = .ok e) →
      e.message[63] = 0 ∧ decode e.encode.toList = .ok e) ∧
    (∀ e : Event, e.Written →
      String.fromUTF8? ⟨(e.message.toList.takeWhile (· ≠ 0)).toArray⟩ = some e.text) ∧
    (∀ bs, ReadByLayout bs) ∧
    ∀ bs cs d e, decode bs = .ok d → decode cs = .ok e → (d = e ↔ bs.take 111 = cs.take 111) := by
  refine ⟨fun e he => ?_, fun e he => ?_, readByLayout, fun bs cs d e => eq_iff_take_eq⟩
  · have hlast : e.message[63] = 0 := by
      obtain hwritten | ⟨bs, hread⟩ := he
      · obtain ⟨parts, hmessage⟩ := hwritten.message_eq
        rw [hmessage, Message.last_ofParts]
      · exact (of_decode_eq_ok hread).1
    exact ⟨hlast, decode_encode hlast⟩
  · obtain ⟨parts, hmessage⟩ := he.message_eq
    rw [text, hmessage, Message.fromUTF8?_ofParts]

/-- A record of 112 bytes whose message has no NUL, and two bytes more. -/
def unterminated : List UInt8 := List.replicate 46 0 ++ [1, 1] ++ List.replicate 66 65

theorem record_faithful_unterminated :
    (∃ d e, decode unterminated = .ok d ∧ decode (unterminated.set 111 0) = .ok e ∧ d = e ∧
      d.message[63] = 0 ∧ decode d.encode.toList = .ok d) ∧
    let e := (ofParts .redirect .debug ["port ", "53 ✓"]).withPorts 40000 53
    decode e.encode.toList = .ok e ∧
      String.fromUTF8? ⟨(e.message.toList.takeWhile (· ≠ 0)).toArray⟩ = some e.text := by
  obtain ⟨hfaithful, hreadable, hlayout, hsame⟩ := record_faithful
  have haccepted (bs : List UInt8) (hlength : 112 ≤ bs.length) (hkind : Bytes.byteAt bs 46 = 1)
      (hlevel : Bytes.byteAt bs 47 = 1) : ∃ e, decode bs = .ok e := by
    obtain ⟨e, he, -⟩ := (hlayout bs).accepted hlength (hkind ▸ ⟨by decide, by decide⟩)
      (hlevel ▸ show (1 : UInt8) ≤ 3 by decide)
    exact ⟨e, he⟩
  obtain ⟨d, hd⟩ := haccepted unterminated (by decide) rfl rfl
  obtain ⟨e, he⟩ := haccepted (unterminated.set 111 0) (by decide) rfl rfl
  have hwritten : ((ofParts .redirect .debug ["port ", "53 ✓"]).withPorts 40000 53).Written :=
    .withPorts 40000 53 (.ofParts .redirect .debug ["port ", "53 ✓"])
  exact ⟨⟨d, e, hd, he, (hsame _ _ d e hd he).mpr (by decide), hfaithful d (.inr ⟨_, hd⟩)⟩,
    (hfaithful _ (.inl hwritten)).2, hreadable _ hwritten⟩

end Event

end IngressGate
