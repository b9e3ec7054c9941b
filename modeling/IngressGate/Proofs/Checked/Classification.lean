import IngressGate.Proofs.Checked.Gate
import IngressGate.Proofs.Decision.Explanation
/-!
# Classification keeps all bounds

The gate that works with checked operations does what the gate does: no step of it meets a fault,
and it ends up with the verdict, the counters and the records that the gate computes without checks.
Each function settles a frame by the finding of the function that it stands for.
-/
namespace IngressGate

open Checked Text

namespace Checked

variable (split : String → List String)

/-! ## What comes of it -/

/-- The verdict of a finding, and the gate that has counted and reported it. -/
def settled (g : Gate) (f : Finding) : Verdict × Gate :=
  (f.verdict,
    { g.emit (f.eventIn (split f.text)) with
      counters := if f.isInvalid then g.counters.addInvalid else g.counters })

/-- Something settles a frame as a finding does, which is worded plainly. -/
structure Settles (g : Gate) (x : Checked (Verdict × Gate)) (f : Finding) : Prop where
  eq : x = .ok (settled split g f)
  plain : Plain f.text

theorem follows_parsePorts (protocol : UInt8) :
    Follows Eq (parsePorts protocol) (Decision.readPorts protocol) := by
  rw [parsePorts, Decision.readPorts]
  split_ifs
  · refine .bind Tcp.follows_parse fun view header hview => ?_
    exact .lift hview.sourcePort (.lift hview.destinationPort (.pure rfl))
  · refine .bind Udp.follows_parse fun view header hview => ?_
    exact .lift hview.sourcePort (.lift hview.destinationPort (.pure rfl))

variable {split} {g : Gate} {frame : List UInt8} {position : Nat}

/-- A finding about headers that could be read is reported, and settles the frame. -/
theorem settles_reported (f : Finding) (hvalid : f.isInvalid = false) :
    Settles split g
      (do return (f.verdict, ← emit split g f.kind f.level (.of f.flow?) f.text)) f where
  eq := by
    rw [emit_eq, ok_bind, settled, hvalid]
    rfl
  plain := Finding.plain_text_of_valid hvalid

/-- A finding about a header that could not be read is counted and reported, and
settles the frame. -/
theorem settles_invalid (f : Finding) {e : HeaderError} (hinvalid : f.isInvalid = true)
    (hkind : f.kind = .invalidPacket) (htext : f.text = e.message) (he : Plain e.message) :
    Settles split g (do return (f.verdict, ← invalid split g f.level (.of f.flow?) e)) f where
  eq := by
    rw [invalid, ← hkind, ← htext, emit_eq, ok_bind, settled, hinvalid]
    rfl
  plain := htext ▸ he

theorem settles_applyRule (flow : Flow) (rule : Match) (allowed : ProtocolSet) (queue : UInt32) :
    Settles split g
      (applyRule split g allowed (.of (some flow)) queue (Finding.ruleText flow rule))
      (Decision.apply flow rule (g.mode.queue queue) allowed) := by
  rw [applyRule, Decision.apply, Facts.protocol_of]
  split_ifs
  · exact settles_reported (.permitted flow rule _) rfl
  · exact settles_reported (.refused flow rule allowed) rfl

/-- The ports are asked for by the same packets. -/
theorem hasNoPorts_iff (protocol : UInt8) :
    (protocol ≠ Protocol.tcp ∧ protocol ≠ Protocol.udp) ↔ (!Protocol.hasPorts protocol) = true := by
  simp [Protocol.hasPorts]

theorem settles_decideByPort (hframe : frame.length < 2 ^ 63) (hposition : position ≤ frame.length)
    (flow : Flow) (queue : UInt32) :
    Settles split g (decideByPort split g (.within frame position) (.of (some flow)) queue)
      (Decision.decideByPort g.book.get? (g.mode.queue queue) flow (.within frame position)) := by
  have hagree := follows_parsePorts flow.protocol frame position hframe hposition
  rw [decideByPort, Decision.decideByPort, Facts.protocol_of]
  generalize parsePorts flow.protocol (.within frame position) = x at hagree
  generalize Decision.readPorts flow.protocol (.within frame position) = y at hagree
  cases hagree with
  | error _ he => exact settles_invalid (.unreadableTransport flow _) rfl rfl rfl he
  | @ok ports _ _ _ hports =>
    subst hports
    obtain ⟨sourcePort, destinationPort⟩ := ports
    simp only [ok_bind, Facts.withPorts_of, Facts.protocol_of]
    cases g.book.get? (.port destinationPort) with
    | some allowed =>
      exact settles_applyRule { flow with sourcePort, destinationPort } .port allowed queue
    | none =>
      exact settles_reported (.unmatched { flow with sourcePort, destinationPort }) rfl

theorem settles_decidePacket (hframe : frame.length < 2 ^ 63) (hposition : position ≤ frame.length)
    (flow : Flow) (later : Bool) (queue : UInt32) :
    Settles split g
      (decidePacket split g (.within frame position) (.of (some flow)) flow.endpoints.sourceKey
        later queue)
      (Decision.decidePacket g.book.get? (g.mode.queue queue) flow later
        (.within frame position)) := by
  rw [decidePacket, Decision.decidePacket, Facts.protocol_of]
  cases hrule : g.book.get? flow.endpoints.sourceKey with
  | some allowed => exact settles_applyRule flow .source allowed queue
  | none =>
    simp only [hasNoPorts_iff]
    split_ifs
    · exact settles_reported (.noAddressRule flow) rfl
    · exact settles_reported (.laterFragment flow) rfl
    · exact settles_decideByPort hframe hposition flow queue

theorem settles_decideIpv4 (hframe : frame.length < 2 ^ 63) (hposition : position ≤ frame.length)
    (queue : UInt32) :
    Settles split g (decideIpv4 split g (.within frame position) queue)
      (Decision.decideIpv4 g.book.get? (g.mode.queue queue) (.within frame position)) := by
  have hagree := Ipv4.follows_parse frame position hframe hposition
  rw [decideIpv4, Decision.decideIpv4]
  generalize Ipv4.parse (.within frame position) = x at hagree
  generalize Ipv4.read (.within frame position) = y at hagree
  cases hagree with
  | error _ he => exact settles_invalid (.unreadable _) rfl rfl rfl he
  | @ok view header _ hposition' hview =>
    simp only [ok_bind, hview.source, hview.destination, hview.protocol, hview.isLaterFragment,
      Facts.ofIpv4_eq]
    exact settles_decidePacket hframe hposition'
      { endpoints := .v4 header.source header.destination, protocol := header.protocol }
      header.isLaterFragment queue

theorem settles_decideIpv6 (hframe : frame.length < 2 ^ 63) (hposition : position ≤ frame.length)
    (queue : UInt32) :
    Settles split g (decideIpv6 split g (.within frame position) queue)
      (Decision.decideIpv6 g.book.get? (g.mode.queue queue) (.within frame position)) := by
  have hagree := Ipv6.follows_parse frame position hframe hposition
  rw [decideIpv6, Decision.decideIpv6]
  generalize Ipv6.parse (.within frame position) = x at hagree
  generalize Ipv6.read (.within frame position) = y at hagree
  cases hagree with
  | error _ he => exact settles_invalid (.unreadableIpv6 _) rfl rfl rfl he
  | @ok view packet _ hposition' hview =>
    simp only [ok_bind, hview.header.source, hview.header.destination, hview.protocol,
      hview.laterFragment]
    exact settles_decidePacket hframe hposition'
      { endpoints := .v6 packet.header.source packet.header.destination
        protocol := packet.chain.protocol }
      packet.chain.laterFragment queue

theorem settles_decide (hframe : frame.length < 2 ^ 63) (queue : UInt32) :
    Settles split g (decide split g frame queue) (g.decide frame queue) := by
  have hagree := Ethernet.follows_parse frame 0 hframe (Nat.zero_le _)
  have hstart : Cursor.ofFrame frame = .within frame 0 := rfl
  rw [decide, Gate.decide, decideFrame, hstart]
  generalize Ethernet.parse (.within frame 0) = x at hagree
  generalize Ethernet.read (.within frame 0) = y at hagree
  cases hagree with
  | error _ he => exact settles_invalid (.unreadable _) rfl rfl rfl he
  | @ok view header _ hposition hview =>
    simp only [ok_bind, hview.etherType]
    cases EtherType.ofCode? header.etherType with
    | none => exact settles_reported (.otherType header.etherType) rfl
    | some etherType =>
      cases etherType with
      | arp =>
        exact settles_reported (.arp _) rfl
      | ipv4 => exact settles_decideIpv4 hframe hposition queue
      | ipv6 => exact settles_decideIpv6 hframe hposition queue
      | vlan => exact settles_reported (.otherType header.etherType) rfl

/-! ## The gate as it is -/

theorem message_event (f : Finding) : f.event.message = Message.ofParts [f.text] := by
  rw [Finding.event]
  cases f.flow? with
  | none => rfl
  | some flow =>
    obtain ⟨_ | _, _, _, _⟩ := flow
    all_goals rfl

/-- A plain message comes out the same, wherever it is cut into parts. -/
theorem eventIn_eq {f : Finding} (hsplit : ∀ text, String.join (split text) = text)
    (hplain : Plain f.text) : f.eventIn (split f.text) = f.event := by
  have hparts : ∀ part ∈ split f.text, ∀ c ∈ part.toList, c.utf8Size = 1 := by
    intro part hpart c hc
    apply hplain
    rw [← hsplit f.text, String.toList_join]
    exact List.mem_flatMap_of_mem hpart hc
  have hmessage : Message.ofParts (split f.text) = f.event.message := by
    rw [message_event, (Message.ofParts_eq_whole_iff _).mpr (Message.inOrder_of_oneByte hparts _),
      hsplit]
  rw [Finding.eventIn, hmessage]

theorem exists_classify (split : String → List String) (g : Gate) (hframe : frame.length < 2 ^ 63)
    (queue : UInt32) : ∃ answer, classify split g frame queue = .ok answer := by
  have hdecide : Settles split g (decide split g frame queue) (g.decide frame queue) :=
    settles_decide hframe queue
  rw [classify, hdecide.eq]
  exact ⟨_, rfl⟩

theorem classify_eq (hsplit : ∀ text, String.join (split text) = text)
    (hframe : frame.length < 2 ^ 63) (queue : UInt32) :
    classify split g frame queue = .ok (g.classify frame queue) := by
  have hdecide : Settles split g (decide split g frame queue) (g.decide frame queue) :=
    settles_decide hframe queue
  rw [classify, hdecide.eq, ok_bind, settled, eventIn_eq hsplit hdecide.plain]
  rfl

theorem dispatch_eq (g : Gate) (v : Verdict) : dispatch g v = .ok (g.dispatch v) := by
  cases v <;> rfl

theorem exists_process (split : String → List String) (g : Gate) (hframe : frame.length < 2 ^ 63)
    (queue : UInt32) : ∃ step, process split g frame queue = .ok step := by
  obtain ⟨⟨verdict, g'⟩, hclassify⟩ := exists_classify split
    { g with counters := g.counters.arrive queue (UInt64.ofNat frame.length) } hframe queue
  simp only [process, hclassify, ok_bind, dispatch_eq]
  exact ⟨_, rfl⟩

theorem process_eq (hsplit : ∀ text, String.join (split text) = text)
    (hframe : frame.length < 2 ^ 63) (queue : UInt32) :
    process split g frame queue = .ok (g.process frame queue) := by
  simp only [process, classify_eq hsplit hframe, ok_bind, dispatch_eq]
  rfl

/-- The five parsers do what the readers do, from a place in the frame on. -/
structure ParsersAgree (frame : List UInt8) (position : Nat) : Prop where
  ethernet : Agrees frame Ethernet.View.Shows (Ethernet.parse (.within frame position))
    (Ethernet.read (.within frame position))
  ipv4 : Agrees frame Ipv4.View.Shows (Ipv4.parse (.within frame position))
    (Ipv4.read (.within frame position))
  ipv6 : Agrees frame Ipv6.ResolvedView.Shows (Ipv6.parse (.within frame position))
    (Ipv6.read (.within frame position))
  tcp : Agrees frame Tcp.View.Shows (Tcp.parse (.within frame position))
    (Tcp.read (.within frame position))
  udp : Agrees frame Udp.View.Shows (Udp.parse (.within frame position))
    (Udp.read (.within frame position))

end Checked

namespace Gate

/-- **No check fails.** Every frame is classified and processed without a fault, in every state of
the gate and however messages are cut into parts, and with the result of the gate itself if the
parts make up the text. All headers that the parsers hand out answer for all of their fields, at
positions within the frame, and the writer of messages stays short of the last byte of its field. -/
theorem classification_keeps_bounds (split : String → List String) {frame : List UInt8}
    (hframe : frame.length < 2 ^ 63) :
    (∀ (g : Gate) (queue : UInt32), (∃ answer, Checked.classify split g frame queue = .ok answer) ∧
      ∃ step, Checked.process split g frame queue = .ok step) ∧
    ((∀ text, String.join (split text) = text) → ∀ (g : Gate) (queue : UInt32),
      Checked.classify split g frame queue = .ok (g.classify frame queue) ∧
      Checked.process split g frame queue = .ok (g.process frame queue)) ∧
    (∀ position ≤ frame.length, ParsersAgree frame position) ∧
    ∀ parts : List String, ∃ w : Message.Writer,
      parts.foldlM Message.Writer.write .start = .ok w ∧ w.length ≤ Message.capacity ∧
      w.field = Message.ofParts parts := by
  refine ⟨fun g queue => ⟨?_, ?_⟩, fun hsplit g queue => ⟨?_, ?_⟩, fun position hposition => ?_,
    fun parts => ?_⟩
  · exact exists_classify split g hframe queue
  · exact exists_process split g hframe queue
  · exact classify_eq hsplit hframe queue
  · exact process_eq hsplit hframe queue
  · exact ⟨Ethernet.follows_parse frame position hframe hposition,
      Ipv4.follows_parse frame position hframe hposition,
      Ipv6.follows_parse frame position hframe hposition,
      Tcp.follows_parse frame position hframe hposition,
      Udp.follows_parse frame position hframe hposition⟩
  · have hlength : (parts.foldl Message.append []).length < Message.size :=
      Message.length_foldl_append (by decide) parts
    exact ⟨_, Message.Writer.foldlM_write parts (by decide), Nat.le_pred_of_lt hlength, rfl⟩

theorem classification_keeps_bounds_queryFrame :
    let whole (text : String) : List String := [text]
    queryFrame.length < 2 ^ 63 ∧ (∀ text, String.join (whole text) = text) ∧
    (listening.decide queryFrame 0).text = "no policy matched" ∧
    Checked.classify whole listening queryFrame 0 = .ok (listening.classify queryFrame 0) := by
  have hframe : queryFrame.length < 2 ^ 63 := by decide +kernel
  have hjoin : ∀ text : String, String.join [text] = text := by simp [String.join]
  obtain ⟨-, hresult, -, -⟩ := classification_keeps_bounds (fun text => [text]) hframe
  exact ⟨hframe, hjoin, by decide +kernel, (hresult hjoin listening 0).1⟩

end Gate

end IngressGate
