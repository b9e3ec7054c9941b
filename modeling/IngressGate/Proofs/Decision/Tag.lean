import IngressGate.Proofs.Decision.Explanation
import IngressGate.Proofs.Decision.Truncation
import IngressGate.Proofs.Frame.Position
/-!
# One tag is invisible

An 802.1Q tag stands between the addresses of a frame and the type of its payload, and shifts all
headers by four bytes. None of them is read at a fixed offset, so the tag of a frame that has just
one changes nothing about the classification: not the verdict, not the event with its byte counts,
not what is counted.
-/
namespace IngressGate

open Bytes

namespace Ethernet

/-- The frame with a tag behind its addresses. -/
def insertTag (tag : VlanTag) (f : List UInt8) : List UInt8 :=
  f.take 12 ++ encodeTag (some tag) ++ f.drop 12

theorem encodeTag_some (tag : VlanTag) :
    encodeTag (some tag) = ofU16 0x8100 ++ ofU16 tag.control := rfl

variable {f : List UInt8}

theorem length_insertTag (tag : VlanTag) (f : List UInt8) :
    (insertTag tag f).length = f.length + 4 := by
  simp only [insertTag, encodeTag_some, List.length_append, List.length_take, List.length_drop,
    length_ofU16]
  omega

theorem wordAt_insertTag (tag : VlanTag) (h : 14 ≤ f.length) :
    wordAt (insertTag tag f) 12 = 0x8100 ∧ wordAt (insertTag tag f) 16 = wordAt f 12 := by
  have hfront : (f.take 12).length = 12 := List.length_take_of_le (by omega)
  have hbehind : wordAt (f.drop 12) 0 = wordAt f 12 := by rw [wordAt_drop]
  rw [insertTag, encodeTag_some]
  constructor
  · simp (disch := simp [hfront]) [wordAt_append_left, wordAt_append_right, hfront]
  · simp (disch := simp [hfront]) [wordAt_append_right, hfront, hbehind]

theorem drop_insertTag (tag : VlanTag) (h : 14 ≤ f.length) :
    (insertTag tag f).drop 18 = f.drop 14 := by
  have hfront : (f.take 12 ++ encodeTag (some tag)).length = 16 := by
    rw [encodeTag_some, List.length_append, List.length_append, length_ofU16, length_ofU16,
      List.length_take_of_le (by omega)]
  calc (insertTag tag f).drop 18
      = ((insertTag tag f).drop 16).drop 2 := by rw [List.drop_drop]
    _ = (f.drop 12).drop 2 := by rw [insertTag, List.drop_left' hfront]
    _ = f.drop 14 := by rw [List.drop_drop]

/-- The Ethernet header of the tagged frame has the same type, and the same bytes come behind it. -/
theorem read_insertTag (tag : VlanTag) (h : 14 ≤ f.length) (htype : wordAt f 12 ≠ 0x8100) :
    ∃ header header' c c',
      read (.ofFrame f) = .ok header c ∧ read (.ofFrame (insertTag tag f)) = .ok header' c' ∧
        header.etherType = header'.etherType ∧ c.rest = c'.rest := by
  obtain ⟨houter, hinner⟩ := wordAt_insertTag tag h
  have hlength : ¬ (Cursor.ofFrame f).remaining < 14 := Nat.not_lt_of_le h
  have hplain : ¬ wordAt (Cursor.ofFrame f).rest 12 = 0x8100 := htype
  have hlength' : ¬ (Cursor.ofFrame (insertTag tag f)).remaining < 18 := by
    rw [Cursor.remaining, Cursor.ofFrame, length_insertTag]
    omega
  have htagged : wordAt (Cursor.ofFrame (insertTag tag f)).rest 12 = 0x8100 := houter
  refine ⟨.untagged f, .tagged (insertTag tag f), (Cursor.ofFrame f).advance 14,
    (Cursor.ofFrame (insertTag tag f)).advance 18, ?_, ?_, hinner.symm, ?_⟩
  · rw [read_eq, if_neg hlength, if_neg hplain]
    rfl
  · rw [read_eq, if_neg (by omega), if_pos htagged, if_neg hlength']
    rfl
  · exact (drop_insertTag tag h).symm

end Ethernet

/-! ## Decisions do not know where they are -/

namespace Decision
variable {rules : Rules} {queue : UInt32} {c c' : Cursor}

theorem readPorts_congr (protocol : UInt8) (h : c.rest = c'.rest) :
    Reader.SameButOffset (readPorts protocol c) (readPorts protocol c') := by
  rw [readPorts_eq, readPorts_eq, Cursor.remaining_congr h, h]
  split_ifs
  · exact .error
  · exact .error
  · exact .ok (Cursor.rest_advance_congr h _)
  · exact .error
  · exact .ok (Cursor.rest_advance_congr h _)

theorem decideByPort_congr (flow : Flow) (h : c.rest = c'.rest) :
    decideByPort rules queue flow c = decideByPort rules queue flow c' := by
  have hports := readPorts_congr flow.protocol h
  rw [decideByPort, decideByPort]
  generalize readPorts flow.protocol c = x at hports
  generalize readPorts flow.protocol c' = y at hports
  cases hports <;> rfl

theorem decidePacket_congr (flow : Flow) (later : Bool) (h : c.rest = c'.rest) :
    decidePacket rules queue flow later c = decidePacket rules queue flow later c' := by
  rw [decidePacket, decidePacket, decideByPort_congr flow h]

theorem decideIpv4_congr (h : c.rest = c'.rest) :
    decideIpv4 rules queue c = decideIpv4 rules queue c' := by
  have hread := Ipv4.read_congr h
  rw [decideIpv4, decideIpv4]
  generalize Ipv4.read c = x at hread
  generalize Ipv4.read c' = y at hread
  cases hread with
  | ok hrest => exact decidePacket_congr _ _ hrest
  | error => rfl

theorem decideIpv6_congr (h : c.rest = c'.rest) :
    decideIpv6 rules queue c = decideIpv6 rules queue c' := by
  have hread := Ipv6.read_congr h
  rw [decideIpv6, decideIpv6]
  generalize Ipv6.read c = x at hread
  generalize Ipv6.read c' = y at hread
  cases hread with
  | ok hrest => exact decidePacket_congr _ _ hrest
  | error => rfl

end Decision

open Ethernet

theorem decideFrame_insertTag (rules : Rules) (queue : UInt32) {f : List UInt8} (tag : VlanTag)
    (h : 14 ≤ f.length) (htype : wordAt f 12 ≠ 0x8100) :
    decideFrame rules queue (insertTag tag f) = decideFrame rules queue f := by
  obtain ⟨header, header', c, c', hplain, htagged, hsame, hrest⟩ := read_insertTag tag h htype
  simp only [decideFrame, hplain, htagged, hsame, Decision.decideIpv4_congr hrest,
    Decision.decideIpv6_congr hrest]

namespace Gate

/-- **One tag is invisible.** A frame without a tag and the same frame with a tag behind its
addresses, whatever the control value, get the same verdict and leave the same gate behind, with the
same counts and the same record on the channel; the events about them are the same, and so are the
texts that these events tell, byte counts included. -/
theorem classify_insertTag (g : Gate) (f : List UInt8) (queue : UInt32) (tag : VlanTag)
    (h : 14 ≤ f.length) (htype : wordAt f 12 ≠ 0x8100) :
    (g.classify (insertTag tag f) queue).1 = (g.classify f queue).1 ∧
    (g.classify (insertTag tag f) queue).2.counters.invalid =
      (g.classify f queue).2.counters.invalid ∧
    (g.decide (insertTag tag f) queue).event = (g.decide f queue).event ∧
    (g.decide (insertTag tag f) queue).text = (g.decide f queue).text ∧
    (g.classify (insertTag tag f) queue).2 = (g.classify f queue).2 := by
  have hsame : g.decide (insertTag tag f) queue = g.decide f queue :=
    decideFrame_insertTag _ _ tag h htype
  rw [classify_congr hsame, hsame]
  exact ⟨rfl, rfl, rfl, rfl, rfl⟩

/-- A frame with an IPv4 header of 24 bytes, of which four are missing. -/
def cutOptionsFrame : List UInt8 := List.replicate 12 0 ++ [0x08, 0x00, 0x46] ++ List.replicate 19 0

theorem classify_insertTag_cutOptionsFrame :
    14 ≤ cutOptionsFrame.length ∧ wordAt cutOptionsFrame 12 ≠ 0x8100 ∧
    (listening.decide (insertTag ⟨0xE00A⟩ cutOptionsFrame) 0).text =
      "ipv4 header truncated: need 24 bytes, 20 remaining" ∧
    (listening.classify (insertTag ⟨0xE00A⟩ cutOptionsFrame) 0).1 = .pass ∧
    (listening.classify (insertTag ⟨0xE00A⟩ cutOptionsFrame) 0).2.counters.invalid = 1 := by
  have hlength : 14 ≤ cutOptionsFrame.length := by decide
  have htype : wordAt cutOptionsFrame 12 ≠ 0x8100 := by decide
  obtain ⟨hverdict, hinvalid, -, htext, -⟩ :=
    classify_insertTag listening cutOptionsFrame 0 ⟨0xE00A⟩ hlength htype
  refine ⟨hlength, htype, ?_, ?_, ?_⟩
  · rw [htext]
    decide +kernel
  · rw [hverdict]
    decide +kernel
  · rw [hinvalid]
    decide +kernel

end Gate

end IngressGate
