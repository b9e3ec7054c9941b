import IngressGate.Cli.Sample
import IngressGate.Gate
import IngressGate.Proofs.Decision.Course
import IngressGate.Proofs.Event.Conservation
import IngressGate.Proofs.Event.Record
/-!
# Events explain verdicts

Every frame that is classified gives one event. Its kind and level say which way the decision took,
and with that what the verdict was; its addresses, protocol and ports are those of the packet in the
frame, as far as they have been read. `Explains` says all this without mention of the decision, and
`Gate.classify_explained` says it of the record that goes to the channel.
-/
namespace IngressGate

open Decision

section Explains
variable (rules : Rules) (f : List UInt8)

/-- The ports of the packet are asked for and have been read. -/
def ReadsPorts (flow : Flow) (ports : UInt16 × UInt16) : Prop :=
  ∃ c c', NeedsPorts rules f flow c ∧ readPorts flow.protocol c = .ok ports c'

/-- The rule that applies to the packet does not permit its protocol. -/
def Mismatches : Prop :=
  ∃ flow rule allowed, Applies rules f flow rule allowed ∧ allowed.permits flow.protocol = false

/-- Which kinds and levels of events there are, and with which verdict each of them goes. -/
inductive Grounds : EventKind → Level → Verdict → Prop
  | redirect (queue) : Grounds .redirect .debug (.redirect queue)
  | mismatch : Grounds .protocolMismatch .info .drop
  | chain : Grounds .invalidPacket .error .drop
  | header : Grounds .invalidPacket .warn .pass
  | pass : Grounds .pass .debug .pass

/-- The addresses of an event are those of a packet, an IPv4 address filled up with zeros. -/
def Event.IsBetween (e : Event) : Endpoints → Prop
  | .v4 source destination =>
    e.ipVersion = 4 ∧ e.source.toList = source.octets.toList ++ List.replicate 12 0 ∧
      e.destination.toList = destination.octets.toList ++ List.replicate 12 0
  | .v6 source destination =>
    e.ipVersion = 6 ∧ e.source = source.octets ∧ e.destination = destination.octets

/-- An event explains the verdict on a frame. -/
structure Explains (v : Verdict) (e : Event) : Prop where
  grounds : Grounds e.kind e.level v
  redirect_iff : e.kind = .redirect ↔ ∃ queue, v = .redirect queue
  mismatch_iff : e.kind = .protocolMismatch ↔ Mismatches rules f
  error_iff : e.kind = .invalidPacket ∧ e.level = .error ↔ ∃ error, Unreadable rules f .ipv6 error
  warn_iff : e.kind = .invalidPacket ∧ e.level = .warn ↔
    ∃ layer error, layer ≠ .ipv6 ∧ Unreadable rules f layer error
  pass_iff : e.kind = .pass ↔ (∀ queue, v ≠ .redirect queue) ∧ ¬ Mismatches rules f ∧
    ∀ layer error, ¬ Unreadable rules f layer error
  packet : ∀ {flow later c}, CarriesPacket f flow later c →
    e.IsBetween flow.endpoints ∧ e.protocol = flow.protocol
  noPacket : (∀ flow later c, ¬ CarriesPacket f flow later c) →
    e.ipVersion = 0 ∧ e.source = Vector.replicate 16 0 ∧ e.destination = Vector.replicate 16 0 ∧
      e.protocol = 0
  ports : ∀ {flow ports}, ReadsPorts rules f flow ports →
    e.sourcePort = ports.1 ∧ e.destinationPort = ports.2
  noPorts : (∀ flow ports, ¬ ReadsPorts rules f flow ports) →
    e.sourcePort = 0 ∧ e.destinationPort = 0

end Explains

variable {rules : Rules} {queue : UInt32} {f : List UInt8} {flow : Flow} {later : Bool}
  {c : Cursor} {x : Finding} {n : Nat}

/-! ## Kind, level and verdict -/

namespace Finding

theorem grounds (x : Finding) : Grounds x.kind x.level x.verdict := by
  cases x <;> constructor

theorem kind_eq_redirect_iff (x : Finding) : x.kind = .redirect ↔ ∃ q, x.verdict = .redirect q := by
  cases x <;> simp [kind, verdict]

theorem kind_eq_invalidPacket_iff (x : Finding) :
    x.kind = .invalidPacket ↔ ∃ e, x.error? = some e := by
  cases x <;> simp [kind, error?]

end Finding

theorem kind_apply_iff {rule : Match} {allowed : ProtocolSet} :
    (apply flow rule queue allowed).kind = .protocolMismatch ↔
      allowed.permits flow.protocol = false := by
  rw [apply]
  split <;> simp_all [Finding.kind]

theorem Applies.decideFrame_eq {rule : Match} {allowed : ProtocolSet}
    (h : Applies rules f flow rule allowed) :
    decideFrame rules queue f = apply flow rule queue allowed := by
  cases h with
  | source hp hrule => exact (Course.source hp hrule).decideFrame_eq
  | port hn hread hrule => exact (Course.port hn hread hrule).decideFrame_eq

theorem Course.mismatches (h : Course rules queue f x n) (hx : x.kind = .protocolMismatch) :
    Mismatches rules f := by
  cases h with
  | source hp hrule => exact ⟨_, _, _, .source hp hrule, kind_apply_iff.mp hx⟩
  | port hn hread hrule => exact ⟨_, _, _, .port hn hread hrule, kind_apply_iff.mp hx⟩
  | ethernet | arp | otherType | ipv4 | ipv6 | noPorts | later | transport | unmatched => cases hx

theorem kind_decideFrame_eq_mismatch_iff :
    (decideFrame rules queue f).kind = .protocolMismatch ↔ Mismatches rules f := by
  constructor
  · intro hx
    obtain ⟨n, hcourse⟩ := exists_course_decideFrame rules queue f
    exact hcourse.mismatches hx
  · rintro ⟨flow, rule, allowed, happlies, hpermits⟩
    rw [happlies.decideFrame_eq]
    exact kind_apply_iff.mpr hpermits

theorem kind_decideFrame_eq_invalid_iff {level : Level} :
    (decideFrame rules queue f).kind = .invalidPacket ∧ (decideFrame rules queue f).level = level ↔
      ∃ layer error, layer.level = level ∧ Unreadable rules f layer error := by
  constructor
  · rintro ⟨hkind, hlevel⟩
    obtain ⟨error, herror⟩ := (Finding.kind_eq_invalidPacket_iff _).mp hkind
    obtain ⟨n, hcourse⟩ := exists_course_decideFrame rules queue f
    obtain ⟨layer, hlayer⟩ := hcourse.exists_unreadable herror
    exact ⟨layer, error, (hlayer.decideFrame_eq queue).2.2.2.symm.trans hlevel, hlayer⟩
  · rintro ⟨layer, error, rfl, hlayer⟩
    exact (hlayer.decideFrame_eq queue).2.2

/-! ## What is known about the packet -/

/-- What is known about the packet in a frame once the decision is made. -/
inductive Known (rules : Rules) (f : List UInt8) : Option Flow → Prop
  | nothing : (∀ flow later c, ¬ CarriesPacket f flow later c) → Known rules f none
  | addresses {flow : Flow} {later c} : CarriesPacket f flow later c →
      (∀ ports, ¬ ReadsPorts rules f flow ports) → Known rules f (some flow)
  | ports {flow : Flow} {ports} : ReadsPorts rules f flow ports →
      Known rules f (some (flow.withPorts ports))

theorem flow?_apply (flow : Flow) (rule : Match) (queue : UInt32) (allowed : ProtocolSet) :
    (apply flow rule queue allowed).flow? = some flow := by
  rw [apply]
  split <;> rfl

theorem isSome_flow?_decidePacket :
    (decidePacket rules queue flow later c).flow?.isSome = true := by
  rw [decidePacket]
  split
  · rw [flow?_apply]; rfl
  split
  · rfl
  split
  · rfl
  rw [decideByPort]
  split
  · rfl
  dsimp only
  split
  · rw [flow?_apply]; rfl
  · rfl

theorem CarriesPacket.not_readsPorts (h : CarriesPacket f flow later c)
    (hread : NeedsPorts rules f flow c → ∀ ports c', readPorts flow.protocol c ≠ .ok ports c')
    (ports : UInt16 × UInt16) : ¬ ReadsPorts rules f flow ports := by
  rintro ⟨d, d', hn, hok⟩
  obtain ⟨-, -, rfl⟩ := h.unique hn.packet
  exact hread hn ports d' hok

theorem ReadsPorts.exists_packet {ports : UInt16 × UInt16} (h : ReadsPorts rules f flow ports) :
    ∃ c, CarriesPacket f flow false c := by
  obtain ⟨c, -, hn, -⟩ := h
  exact ⟨c, hn.packet⟩

theorem ReadsPorts.unique {flow' : Flow} {ports ports' : UInt16 × UInt16}
    (h : ReadsPorts rules f flow ports) (h' : ReadsPorts rules f flow' ports') :
    flow = flow' ∧ ports = ports' := by
  obtain ⟨c, d, hn, hok⟩ := h
  obtain ⟨c', d', hn', hok'⟩ := h'
  obtain ⟨rfl, -, rfl⟩ := hn.packet.unique hn'.packet
  rw [hok] at hok'
  cases hok'
  exact ⟨rfl, rfl⟩

theorem Course.known (h : Course rules queue f x n) : Known rules f x.flow? := by
  by_cases hx : x.flow? = none
  · rw [hx]
    refine .nothing fun flow later c hpacket => ?_
    have hsome : (decideFrame rules queue f).flow?.isSome = true :=
      hpacket.decideFrame_eq ▸ isSome_flow?_decidePacket
    rw [h.decideFrame_eq, hx] at hsome
    cases hsome
  cases h with
  | ethernet | arp | otherType | ipv4 | ipv6 => exact absurd rfl hx
  | source hp hrule =>
    rw [flow?_apply]
    refine .addresses hp (hp.not_readsPorts fun hn => ?_)
    rw [hn.noRule] at hrule
    cases hrule
  | noPorts hp hrule hports =>
    exact .addresses hp (hp.not_readsPorts fun hn => absurd hn.hasPorts hports)
  | later hp hrule hports =>
    refine .addresses hp (hp.not_readsPorts fun hn => ?_)
    cases (hp.unique hn.packet).2.1
  | transport hn hread =>
    refine .addresses hn.packet (hn.packet.not_readsPorts fun _ ports c' hok => ?_)
    rw [hread] at hok
    cases hok
  | port hn hread hrule =>
    rw [flow?_apply]
    exact .ports ⟨_, _, hn, hread⟩
  | unmatched hn hread hrule => exact .ports ⟨_, _, hn, hread⟩

theorem known_decideFrame : Known rules f (decideFrame rules queue f).flow? := by
  obtain ⟨n, hcourse⟩ := exists_course_decideFrame rules queue f
  exact hcourse.known

namespace Known
variable {known : Option Flow}

theorem of_packet (h : Known rules f known) (hpacket : CarriesPacket f flow later c) :
    ∃ flow', known = some flow' ∧ flow'.endpoints = flow.endpoints ∧
      flow'.protocol = flow.protocol := by
  cases h with
  | nothing hnone => exact absurd hpacket (hnone flow later c)
  | addresses hpacket' =>
    obtain ⟨rfl, -, -⟩ := hpacket.unique hpacket'
    exact ⟨flow, rfl, rfl, rfl⟩
  | ports hreads =>
    obtain ⟨c', hpacket'⟩ := hreads.exists_packet
    obtain ⟨rfl, -, -⟩ := hpacket.unique hpacket'
    exact ⟨_, rfl, rfl, rfl⟩

theorem of_noPacket (h : Known rules f known)
    (hnone : ∀ flow later c, ¬ CarriesPacket f flow later c) : known = none := by
  cases h with
  | nothing => rfl
  | addresses hpacket => exact absurd hpacket (hnone _ _ _)
  | ports hreads =>
    obtain ⟨c, hpacket⟩ := hreads.exists_packet
    exact absurd hpacket (hnone _ _ _)

theorem of_readsPorts {ports : UInt16 × UInt16} (h : Known rules f known)
    (hreads : ReadsPorts rules f flow ports) : known = some (flow.withPorts ports) := by
  cases h with
  | nothing hnone =>
    obtain ⟨c, hpacket⟩ := hreads.exists_packet
    exact absurd hpacket (hnone flow false c)
  | addresses hpacket hnone =>
    obtain ⟨c, hpacket'⟩ := hreads.exists_packet
    obtain ⟨rfl, -, -⟩ := hpacket.unique hpacket'
    exact absurd hreads (hnone ports)
  | ports hreads' =>
    obtain ⟨rfl, rfl⟩ := hreads.unique hreads'
    rfl

theorem of_noPorts (h : Known rules f known)
    (hnone : ∀ flow ports, ¬ ReadsPorts rules f flow ports) :
    ∀ flow ∈ known, flow.sourcePort = 0 ∧ flow.destinationPort = 0 := by
  cases h with
  | nothing => simp
  | addresses hpacket =>
    rintro flow ⟨⟩
    exact hpacket.ports_eq
  | ports hreads => exact absurd hreads (hnone _ _)

end Known

/-! ## What an event says about the packet -/

namespace Finding

/-- Kind, level and message do not depend on what is known about the packet. -/
theorem event_eq (x : Finding) : x.event.kind = x.kind ∧ x.event.level = x.level ∧
    x.event.message = Message.ofParts [x.text] := by
  rw [event]
  split
  · exact ⟨rfl, rfl, rfl⟩
  · dsimp only
    split <;> exact ⟨rfl, rfl, rfl⟩

theorem event_of_none (hx : x.flow? = none) : x.event = Event.ofText x.kind x.level x.text := by
  rw [event, hx]

theorem event_of_some (hx : x.flow? = some flow) :
    x.event.IsBetween flow.endpoints ∧ x.event.protocol = flow.protocol ∧
      x.event.sourcePort = flow.sourcePort ∧ x.event.destinationPort = flow.destinationPort := by
  rw [event, hx]
  dsimp only
  cases flow.endpoints with
  | v4 source destination =>
    have hpadded (a : Ipv4Address) : (Bytes.padded 16 a.octets.toList).toList =
        a.octets.toList ++ List.replicate 12 0 := by
      rw [Bytes.toList_padded (by simp), Vector.length_toList]
    exact ⟨⟨rfl, hpadded source, hpadded destination⟩, rfl, rfl, rfl⟩
  | v6 source destination => exact ⟨⟨rfl, rfl, rfl⟩, rfl, rfl, rfl⟩

end Finding

/-! ## The explanation -/

theorem Layer.level_eq_error_iff (layer : Layer) : layer.level = .error ↔ layer = .ipv6 := by
  cases layer <;> decide

theorem Layer.level_eq_warn_iff (layer : Layer) : layer.level = .warn ↔ layer ≠ .ipv6 := by
  cases layer <;> decide

theorem exists_unreadable_iff :
    (∃ layer error, Unreadable rules f layer error) ↔
      (decideFrame rules queue f).kind = .invalidPacket := by
  constructor
  · rintro ⟨layer, error, hlayer⟩
    exact (hlayer.decideFrame_eq queue).2.2.1
  · intro hkind
    obtain ⟨layer, error, -, hlayer⟩ := kind_decideFrame_eq_invalid_iff.mp ⟨hkind, rfl⟩
    exact ⟨layer, error, hlayer⟩

/-- An event that lets a frame pass stands for the absence of all other grounds. -/
theorem kind_decideFrame_eq_pass_iff :
    (decideFrame rules queue f).kind = .pass ↔
      (∀ q, (decideFrame rules queue f).verdict ≠ .redirect q) ∧ ¬ Mismatches rules f ∧
        ∀ layer error, ¬ Unreadable rules f layer error := by
  have hredirect := (decideFrame rules queue f).kind_eq_redirect_iff
  have hmismatch : (decideFrame rules queue f).kind = .protocolMismatch ↔ Mismatches rules f :=
    kind_decideFrame_eq_mismatch_iff
  have hinvalid : (∃ layer error, Unreadable rules f layer error) ↔
      (decideFrame rules queue f).kind = .invalidPacket := exists_unreadable_iff
  have hgrounds := (decideFrame rules queue f).grounds
  constructor
  · intro hpass
    rw [hpass] at hredirect hmismatch hinvalid
    refine ⟨fun q hq => ?_, fun h => ?_, fun layer error h => ?_⟩
    · cases hredirect.mpr ⟨q, hq⟩
    · cases hmismatch.mpr h
    · cases hinvalid.mp ⟨layer, error, h⟩
  · rintro ⟨hnoRedirect, hnoMismatch, hreadable⟩
    cases hkind : (decideFrame rules queue f).kind with
    | pass => rfl
    | drop =>
      rw [hkind] at hgrounds
      cases hgrounds
    | redirect =>
      obtain ⟨q, hq⟩ := hredirect.mp hkind
      exact absurd hq (hnoRedirect q)
    | protocolMismatch => exact absurd (hmismatch.mp hkind) hnoMismatch
    | invalidPacket =>
      obtain ⟨layer, error, h⟩ := hinvalid.mpr hkind
      exact absurd h (hreadable layer error)

/-- The event about a frame explains the verdict on it, whenever it is stamped. -/
theorem explains_decideFrame (rules : Rules) (queue : UInt32) (f : List UInt8) (time : UInt64) :
    Explains rules f (decideFrame rules queue f).verdict
      ((decideFrame rules queue f).event.withTimestamp time) := by
  obtain ⟨hkind, hlevel, -⟩ := (decideFrame rules queue f).event_eq
  have hkind : ((decideFrame rules queue f).event.withTimestamp time).kind = _ := hkind
  have hlevel : ((decideFrame rules queue f).event.withTimestamp time).level = _ := hlevel
  have hknown : Known rules f (decideFrame rules queue f).flow? := known_decideFrame
  refine ⟨?_, ?_, ?_, ?_, ?_, ?_, ?_, ?_, ?_, ?_⟩
  · rw [hkind, hlevel]
    exact Finding.grounds _
  · rw [hkind]
    exact Finding.kind_eq_redirect_iff _
  · rw [hkind]
    exact kind_decideFrame_eq_mismatch_iff
  · rw [hkind, hlevel, kind_decideFrame_eq_invalid_iff]
    simp only [Layer.level_eq_error_iff, exists_and_left, exists_eq_left]
  · rw [hkind, hlevel, kind_decideFrame_eq_invalid_iff]
    simp only [Layer.level_eq_warn_iff]
  · rw [hkind]
    exact kind_decideFrame_eq_pass_iff
  · intro flow later c hpacket
    obtain ⟨flow', hflow, hendpoints, hprotocol⟩ := hknown.of_packet hpacket
    obtain ⟨hbetween, hcode, -, -⟩ := Finding.event_of_some hflow
    rw [← hendpoints, ← hprotocol]
    exact ⟨hbetween, hcode⟩
  · intro hnone
    rw [Finding.event_of_none (hknown.of_noPacket hnone)]
    exact ⟨rfl, rfl, rfl, rfl⟩
  · intro flow ports hreads
    exact (Finding.event_of_some (hknown.of_readsPorts hreads)).2.2
  · intro hnone
    cases hflow : (decideFrame rules queue f).flow? with
    | none =>
      rw [Finding.event_of_none hflow]
      exact ⟨rfl, rfl⟩
    | some flow =>
      obtain ⟨-, -, hsource, hdestination⟩ := Finding.event_of_some hflow
      obtain ⟨hsource', hdestination'⟩ := hknown.of_noPorts hnone flow hflow
      exact ⟨hsource.trans hsource', hdestination.trans hdestination'⟩

namespace Gate

/-- **Each classification gives one event that explains its verdict.** It is read back from its
record as it was, the record and nothing else is put on the channel if its level is enabled, the
receiver is there and there is room, and otherwise it is counted as lost if its level is enabled. -/
theorem classify_explained (g : Gate) (f : List UInt8) (queue : UInt32) {ch : Channel}
    (h : g.events = some ch) :
    let e := (g.decide f queue).event.withTimestamp ch.clock
    Explains g.book.get? f (g.classify f queue).1 e ∧
    Event.decode e.encode.toList = .ok e ∧
    (g.classify f queue).2.events = some
      (if ch.isEnabled e.level then
        if ch.isOpen ∧ ch.queue.length < ch.capacity then
          { ch with queue := ch.queue ++ [e.encode] }
        else { ch with lost := ch.lost + 1 }
      else ch) := by
  intro e
  refine ⟨?_, ?_, ?_⟩
  · exact explains_decideFrame _ _ f ch.clock
  · have hmessage : e.message = Message.ofParts [(g.decide f queue).text] :=
      (g.decide f queue).event_eq.2.2
    have hlast : e.message[63] = 0 := by rw [hmessage, Message.last_ofParts]
    exact Event.decode_encode hlast
  · have hemit : (g.classify f queue).2.events = some (ch.emit (g.decide f queue).event).2 := by
      simp [classify, emit, h]
    have hlevel : e.level = (g.decide f queue).event.level := rfl
    rw [hemit, Channel.emit_eq, hlevel]
    split_ifs <;> rfl

/-- A gate without rules that listens to events. -/
def listening : Gate := { events := some (.ofCapacity 1) }

/-- A query for a name. -/
def queryFrame : List UInt8 :=
  (Sample.frame .udp (.v4 (.ofBytes 10 0 0 5)) 53).toOption.getD []

theorem classify_explained_queryFrame :
    let e := (listening.decide queryFrame 0).event.withTimestamp 0
    listening.events = some (.ofCapacity 1) ∧
    (listening.classify queryFrame 0).2.events =
      some { Channel.ofCapacity 1 with queue := [e.encode] } ∧
    Event.decode e.encode.toList = .ok e ∧ e.destinationPort = 53 ∧
    Explains listening.book.get? queryFrame .pass e := by
  obtain ⟨hexplains, hdecode, hevents⟩ := classify_explained listening queryFrame 0 rfl
  have hverdict : (listening.classify queryFrame 0).1 = .pass := by decide +kernel
  rw [hverdict] at hexplains
  exact ⟨rfl, hevents, hdecode, by decide +kernel, hexplains⟩

end Gate

end IngressGate
