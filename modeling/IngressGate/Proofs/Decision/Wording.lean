import Mathlib.Data.List.TakeWhile
import IngressGate.Proofs.Decision.Explanation
import IngressGate.Proofs.Event.Parts
import IngressGate.Proofs.Frame.Reports
/-!
# How much of a message is kept

The field of a message keeps 63 characters. Whatever the gate says about a frame is no longer than
that, in any state and for any queue, so that the event about the frame has the whole text
(`Gate.classify_wording`). There is one exception: the report on an IPv6 extension header that is
cut short, where both the number of bytes that are needed and the number of those that are there
have four digits. Of that report the last letter is missing.
-/
namespace IngressGate

open Decision Text

/-! ## Messages of one piece -/

namespace Message
variable {text : String}

theorem utf8ByteSize_eq (h : Printable text) : text.utf8ByteSize = text.length := by
  have hbytes : text.toByteArray.data = (charsBytes text.toList).toArray := by
    conv_lhs => rw [← String.ofList_toList (s := text), String.toByteArray_ofList]
    exact List.data_toByteArray
  rw [← String.size_toByteArray, ByteArray.size, hbytes, List.size_toArray,
    length_charsBytes_of_oneByte h.plain, String.length_toList]

/-- What is kept of a text whose characters can be printed is its start. -/
theorem text_ofParts_single (h : Printable text) :
    Message.text (ofParts [text]) = String.ofList (text.toList.take capacity) := by
  have hnul : ∀ c ∈ text.toList.take capacity, decide (c ≠ '\x00') = true := by
    intro c hc
    have hprintable := h c (List.mem_of_mem_take hc)
    refine decide_eq_true ?_
    rintro rfl
    exact absurd hprintable (by decide)
  rw [Message.text, ofParts_single, toList_padded_fitting, fitting_of_oneByte h.plain,
    takeWhile_charsBytes, List.takeWhile_eq_self_iff.mpr hnul, fromUTF8?_charsBytes,
    Option.getD_some]

theorem Fits.text_eq (h : Fits text) : Message.text (ofParts [text]) = text := by
  have htake : text.toList.take capacity = text.toList :=
    List.take_of_length_le (by rw [String.length_toList]; exact h.length_le)
  rw [text_ofParts_single h.printable, htake, String.ofList_toList]

/-- A letter that is one too many is cut. -/
theorem text_ofParts_append {letter : String} (h : Printable (text ++ letter))
    (hlength : text.length = 63) : Message.text (ofParts [text ++ letter]) = text := by
  have htake : (text ++ letter).toList.take capacity = text.toList := by
    rw [String.toList_append]
    exact List.take_left' (by rw [String.length_toList, hlength]; rfl)
  rw [text_ofParts_single h, htake, String.ofList_toList]

end Message

/-! ## The longest names -/

theorem Protocol.length_name_le (p : UInt8) : (name p).length ≤ 12 := by
  unfold name
  split_ifs <;> decide

theorem Protocol.length_name_of_ports {p : UInt8} (h : p = 6 ∨ p = 17) : (name p).length = 3 := by
  rcases h with rfl | rfl <;> decide

theorem ProtocolSet.length_text_le (s : ProtocolSet) : s.text.length ≤ 19 := by
  simp only [text, named, List.filter_cons, List.filter_nil]
  split_ifs <;> decide

/-! ## What is said about a frame that can be read -/

namespace Finding
variable {flow : Flow} {rule : Match} {queue : UInt32} {allowed : ProtocolSet}

theorem length_ruleText_source (flow : Flow) : (ruleText flow .source).length ≤ 19 := by
  have hname := Protocol.length_name_le flow.protocol
  have hfixed : "source ".length = 7 := by decide
  rw [ruleText, String.length_append, hfixed]
  omega

/-- Ports are spoken of with the protocols that have some, whose names are short. -/
theorem length_ruleText_port (h : flow.protocol = 6 ∨ flow.protocol = 17) :
    (ruleText flow .port).length ≤ 19 := by
  have hname := Protocol.length_name_of_ports h
  have hport : (toString flow.destinationPort).length ≤ 5 := by
    have hlt : flow.destinationPort.toNat < 10 ^ 5 :=
      Nat.lt_trans flow.destinationPort.toNat_lt (by decide)
    show (toString flow.destinationPort.toNat).length ≤ 5
    exact length_number_le hlt (by decide)
  have hfixed : "port ".length = 5 := by decide
  have hspace : " ".length = 1 := by decide
  simp only [ruleText, String.length_append, hfixed, hspace, hname]
  omega

theorem length_queue_le (queue : UInt32) : (toString queue).length ≤ 10 := by
  have hlt : queue.toNat < 10 ^ 10 := Nat.lt_trans queue.toNat_lt (by decide)
  show (toString queue.toNat).length ≤ 10
  exact length_number_le hlt (by decide)

theorem length_text_apply_le (h : (ruleText flow rule).length ≤ 19) :
    (apply flow rule queue allowed).text.length ≤ 63 := by
  rw [apply]
  split
  · have htext : (permitted flow rule queue).text =
        ruleText flow rule ++ " whitelisted, redirect to queue " ++ toString queue := rfl
    have hfixed : " whitelisted, redirect to queue ".length = 32 := by decide
    have hqueue := length_queue_le queue
    rw [htext, String.length_append, String.length_append, hfixed]
    omega
  · have htext : (refused flow rule allowed).text =
        ruleText flow rule ++ " not permitted by " ++ allowed.text := rfl
    have hfixed : " not permitted by ".length = 18 := by decide
    have hallowed := allowed.length_text_le
    rw [htext, String.length_append, String.length_append, hfixed]
    omega

end Finding

variable {rules : Rules} {queue : UInt32} {f : List UInt8} {x : Finding} {n : Nat}

theorem Course.length_text_le (h : Course rules queue f x n) (hx : x.error? = none) :
    x.text.length ≤ 63 := by
  cases h with
  | ethernet | ipv4 | ipv6 | transport => cases hx
  | arp hc =>
    have htext : (Finding.arp queue).text = "arp redirected to queue " ++ toString queue := rfl
    have hfixed : "arp redirected to queue ".length = 24 := by decide
    have hqueue := Finding.length_queue_le queue
    rw [htext, String.length_append, hfixed]
    omega
  | @otherType t c hc h4 ha h6 =>
    have htext : (Finding.otherType t).text =
        "non-ip ethertype 0x" ++ hexPadded 4 t.toNat ++ " passed" := rfl
    have hfixed : "non-ip ethertype 0x".length = 19 ∧ " passed".length = 7 := by decide
    have htype : (hexPadded 4 t.toNat).length = 4 := length_hexPadded t.toNat_lt (by decide)
    rw [htext, String.length_append, String.length_append, hfixed.1, hfixed.2, htype]
    decide
  | source hp hrule => exact Finding.length_text_apply_le (Finding.length_ruleText_source _)
  | @noPorts flow later c hp hrule hports =>
    have htext : (Finding.noAddressRule flow).text =
        "no address policy, " ++ Protocol.name flow.protocol ++ " passed" := rfl
    have hfixed : "no address policy, ".length = 19 ∧ " passed".length = 7 := by decide
    have hname := Protocol.length_name_le flow.protocol
    rw [htext, String.length_append, String.length_append, hfixed.1, hfixed.2]
    omega
  | @later flow c hp hrule hports =>
    have htext : (Finding.laterFragment flow).text =
        "non-first " ++ Protocol.name flow.protocol ++ " fragment passed" := rfl
    have hfixed : "non-first ".length = 10 ∧ " fragment passed".length = 16 := by decide
    have hname := Protocol.length_name_le flow.protocol
    rw [htext, String.length_append, String.length_append, hfixed.1, hfixed.2]
    omega
  | port hn hread hrule =>
    exact Finding.length_text_apply_le (Finding.length_ruleText_port hn.hasPorts)
  | unmatched hn hread hrule =>
    have hfixed : "no policy matched".length ≤ 63 := by decide
    exact hfixed

/-! ## What is said about a frame that cannot be read -/

theorem Decision.reports_readPorts (protocol : UInt8) :
    Reader.Reports HeaderError.Fits (readPorts protocol) := by
  rw [readPorts]
  split
  · exact Tcp.reports_read.bind fun _ => .pure _
  · exact Udp.reports_read.bind fun _ => .pure _

theorem Unreadable.fits_or_cutsLong {layer : Layer} {e : HeaderError}
    (h : Unreadable rules f layer e) : e.Fits ∨ layer = .ipv6 ∧ e.CutsLong := by
  cases h with
  | ethernet hread => exact .inl (Ethernet.reports_read _ _ _ hread)
  | ipv4 hc hread => exact .inl (Ipv4.reports_read _ _ _ hread)
  | ipv6 hc hread => exact (Ipv6.reports_read _ _ _ hread).imp_right fun hlong => ⟨rfl, hlong⟩
  | transport hn hread => exact .inl (Decision.reports_readPorts _ _ _ _ hread)

theorem Finding.text_of_error {e : HeaderError} (h : x.error? = some e) : x.text = e.message := by
  cases x with
  | unreadable | unreadableIpv6 | unreadableTransport => cases h; rfl
  | arp | otherType | permitted | refused | noAddressRule | laterFragment | unmatched => cases h

/-- The frame ends in an IPv6 extension header, of which at least a thousand bytes are there. -/
def EndsInLongExtension (rules : Rules) (f : List UInt8) : Prop :=
  ∃ e, Unreadable rules f .ipv6 e ∧ e.CutsLong

/-- What is said about any other frame fits. -/
theorem Course.fits (h : Course rules queue f x n) (hf : ¬ EndsInLongExtension rules f) :
    Message.Fits x.text := by
  cases herror : x.error? with
  | none =>
    refine ⟨?_, h.length_text_le herror⟩
    rcases x.printable_or_error with hprintable | ⟨e, he, -⟩
    · exact hprintable
    · rw [herror] at he
      cases he
  | some e =>
    obtain ⟨layer, hlayer⟩ := h.exists_unreadable herror
    rw [Finding.text_of_error herror]
    rcases hlayer.fits_or_cutsLong with hfits | ⟨rfl, hlong⟩
    · exact hfits
    · exact absurd ⟨e, hlayer, hlong⟩ hf

namespace Gate

/-- **The event about a frame has the whole text** that the gate has about it, which is at most 63
bytes long, unless the frame ends in an IPv6 extension header of which at least a thousand bytes are
there: then the text has 64 bytes, and the event all but the last. -/
theorem classify_wording (g : Gate) (f : List UInt8) (queue : UInt32) (time : UInt64) :
    let x := g.decide f queue
    (g.classify f queue).2.events = g.events.map (fun ch => (ch.emit x.event).2) ∧
    ∃ e, Event.decode (x.event.withTimestamp time).encode.toList = .ok e ∧
      (¬ EndsInLongExtension g.book.get? f ∧ x.text.utf8ByteSize ≤ 63 ∧ e.text = x.text ∨
        EndsInLongExtension g.book.get? f ∧ x.text.utf8ByteSize = 64 ∧
          e.text ++ "g" = x.text) := by
  intro x
  have hmessage : (x.event.withTimestamp time).message = Message.ofParts [x.text] :=
    x.event_eq.2.2
  have hlast : (x.event.withTimestamp time).message[63] = 0 := by
    rw [hmessage, Message.last_ofParts]
  refine ⟨rfl, _, Event.decode_encode hlast, ?_⟩
  rw [Event.text, hmessage]
  by_cases hf : EndsInLongExtension g.book.get? f
  · obtain ⟨e, hunreadable, hlong⟩ := id hf
    have htext : x.text = e.message := Finding.text_of_error (hunreadable.decideFrame_eq _).1
    obtain ⟨start, hmessage, hprintable, hlength⟩ := hlong.message_eq
    have hwhole : Printable (start ++ "g") := hprintable.append (by decide)
    refine .inr ⟨hf, ?_, ?_⟩
    · rw [htext, hmessage, Message.utf8ByteSize_eq hwhole, String.length_append, hlength]
      decide
    · rw [htext, hmessage, Message.text_ofParts_append hwhole hlength]
  · obtain ⟨n, hcourse⟩ := exists_course_decideFrame g.book.get? (g.mode.queue queue) f
    have hfits : Message.Fits x.text := hcourse.fits hf
    refine .inl ⟨hf, ?_, hfits.text_eq⟩
    rw [Message.utf8ByteSize_eq hfits.printable]
    exact hfits.length_le

/-- A frame that ends in a hop-by-hop header which announces 2048 bytes and has 1000. -/
def longExtensionFrame : List UInt8 :=
  List.replicate 12 0 ++ [0x86, 0xDD] ++ [0x60, 0, 0, 0, 0, 0, 0, 64] ++ List.replicate 32 0 ++
    [6, 255] ++ List.replicate 998 0

theorem event_lacks_longExtensionFrame :
    ∃ x e, ({} : Gate).decide longExtensionFrame 0 = x ∧
      x.text = "ipv6 extension header truncated: need 2048 bytes, 1000 remaining" ∧
      x.text.utf8ByteSize = 64 ∧
      Event.decode (x.event.withTimestamp 0).encode.toList = .ok e ∧
      e.text = "ipv6 extension header truncated: need 2048 bytes, 1000 remainin" ∧
      e.text ≠ x.text := by
  have hfinding : ({} : Gate).decide longExtensionFrame 0 =
      .unreadableIpv6 (.truncated "ipv6 extension" 2048 1000) := by decide +kernel
  generalize hx : Finding.unreadableIpv6 (.truncated "ipv6 extension" 2048 1000) = x at hfinding
  have htext : x.text =
      "ipv6 extension header truncated: need 2048 bytes, 1000 remainin" ++ "g" := by
    rw [← hx]
    decide +kernel
  have hmessage : (x.event.withTimestamp 0).message = Message.ofParts [x.text] :=
    x.event_eq.2.2
  have hlast : (x.event.withTimestamp 0).message[63] = 0 := by
    rw [hmessage, Message.last_ofParts]
  have hkept : (x.event.withTimestamp 0).text =
      "ipv6 extension header truncated: need 2048 bytes, 1000 remainin" := by
    rw [Event.text, hmessage, htext]
    exact Message.text_ofParts_append (by decide) (by decide)
  refine ⟨x, _, hfinding, htext, ?_, Event.decode_encode hlast, hkept, ?_⟩
  · rw [htext]
    decide
  · rw [hkept, htext]
    decide

end Gate

end IngressGate
