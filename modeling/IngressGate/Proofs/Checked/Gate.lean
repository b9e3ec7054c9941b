import IngressGate.Gate
import IngressGate.Proofs.Checked.Event
import IngressGate.Proofs.Checked.Headers
/-!
# The gate with checks

The whole way of a frame through the gate, written with checked operations on bytes: the headers are
parsed and read byte by byte, the addresses are copied from field to field, and the event is
formatted in parts, laid out and queued. How a text is cut into parts is left open.
-/
namespace IngressGate

open Checked Text

namespace Checked

/-! ## Events about a packet -/

/-- What has been gathered about a packet, the addresses in the form that they have in an event.
There is no packet yet when the version is zero. -/
structure Facts where
  ipVersion : UInt8 := 0
  source : Vector UInt8 16 := zeros 16
  destination : Vector UInt8 16 := zeros 16
  protocol : UInt8 := 0
  sourcePort : UInt16 := 0
  destinationPort : UInt16 := 0

namespace Facts

/-- The facts about an IPv4 packet. -/
def ofIpv4 (source destination : Ipv4Address) (protocol : UInt8) : Checked Facts := do
  let sourceField ← copyInto (zeros 16) 0 4 source.octets.toList
  let destinationField ← copyInto (zeros 16) 0 4 destination.octets.toList
  return { ipVersion := 4, source := sourceField, destination := destinationField, protocol }

/-- The facts about an IPv6 packet. -/
def ofIpv6 (source destination : Ipv6Address) (protocol : UInt8) : Facts :=
  { ipVersion := 6, source := source.octets, destination := destination.octets, protocol }

/-- The facts with the ports that have been read. -/
def withPorts (f : Facts) (sourcePort destinationPort : UInt16) : Facts :=
  { f with sourcePort, destinationPort }

/-- The facts that a finding tells. -/
def of : Option Flow → Facts
  | none => {}
  | some flow =>
    let ports : Facts :=
      { protocol := flow.protocol, sourcePort := flow.sourcePort
        destinationPort := flow.destinationPort }
    match flow.endpoints with
    | .v4 source destination =>
      { ports with
        ipVersion := 4
        source := Bytes.padded 16 source.octets.toList
        destination := Bytes.padded 16 destination.octets.toList }
    | .v6 source destination =>
      { ports with ipVersion := 6, source := source.octets, destination := destination.octets }

theorem protocol_of (flow : Flow) : (of (some flow)).protocol = flow.protocol := by
  obtain ⟨_ | _, _, _, _⟩ := flow
  all_goals rfl

theorem withPorts_of (flow : Flow) (sourcePort destinationPort : UInt16) :
    (of (some flow)).withPorts sourcePort destinationPort =
      of (some { flow with sourcePort, destinationPort }) := by
  obtain ⟨_ | _, _, _, _⟩ := flow
  all_goals rfl

theorem ofIpv4_eq (source destination : Ipv4Address) (protocol : UInt8) :
    ofIpv4 source destination protocol =
      .ok (of (some { endpoints := .v4 source destination, protocol })) := by
  rw [ofIpv4, Event.copyInto_start _ (by decide), ok_bind, Event.copyInto_start _ (by decide),
    ok_bind]
  rfl

/-- Puts the addresses of a packet into an event. -/
def address (f : Facts) (e : Event) : Checked Event :=
  if f.ipVersion = 4 then do
    e.copyIpv4 (← ipv4Address f.source.toList 0) (← ipv4Address f.destination.toList 0)
  else if f.ipVersion = 6 then
    return { e with source := f.source, destination := f.destination, ipVersion := 6 }
  else
    return e

theorem ipv4Address_padded (address : Ipv4Address) :
    ipv4Address (Bytes.padded 16 address.octets.toList).toList 0 = .ok address := by
  have hlength : address.octets.toList.length ≤ 16 := by
    rw [Vector.length_toList]
    decide
  have hstart : address.octets.toList <+: (Bytes.padded 16 address.octets.toList).toList := by
    rw [Bytes.toList_padded hlength]
    exact List.prefix_append _ _
  have hwhole : Bytes.slice address.octets 0 4 = address.octets :=
    Vector.ext fun i hi => by simp [Bytes.slice]
  rw [ipv4Address_of_isPrefix hstart (by decide), hwhole]

end Facts

end Checked

/-- The event about a frame, with a message that is written part by part. -/
def Finding.eventIn (f : Finding) (parts : List String) : Event :=
  { f.event with message := Message.ofParts parts }

theorem Finding.level_eventIn (f : Finding) (parts : List String) :
    (f.eventIn parts).level = f.level := by
  rw [eventIn, event]
  cases f.flow? with
  | none => rfl
  | some flow =>
    obtain ⟨_ | _, _, _, _⟩ := flow
    all_goals rfl

namespace Checked

theorem address_eq (f : Finding) (parts : List String) :
    (Facts.of f.flow?).address
        (((Event.ofParts f.kind f.level parts).withProtocol (Facts.of f.flow?).protocol).withPorts
          (Facts.of f.flow?).sourcePort (Facts.of f.flow?).destinationPort) =
      .ok (f.eventIn parts) := by
  rw [Finding.eventIn, Finding.event]
  cases f.flow? with
  | none => rfl
  | some flow =>
    obtain ⟨endpoints, protocol, sourcePort, destinationPort⟩ := flow
    cases endpoints with
    | v4 source destination =>
      have hversion : (Facts.of (some ⟨.v4 source destination, protocol, sourcePort,
          destinationPort⟩)).ipVersion = 4 := rfl
      rw [Facts.address, if_pos hversion]
      simp only [Facts.of, Facts.ipv4Address_padded, ok_bind, Event.copyIpv4_eq]
      rfl
    | v6 source destination => rfl

variable (split : String → List String)

/-- Queues an event, stamped and laid out. -/
def enqueue (c : Channel) (e : Event) : Checked Channel :=
  if !c.isEnabled e.level then return c
  else do
    let record ← (e.withTimestamp c.clock).layOut
    if c.hasRoom then return { c with queue := c.queue ++ [record] }
    else return { c with lost := c.lost + 1 }

theorem enqueue_eq (c : Channel) (e : Event) : enqueue c e = .ok (c.emit e).2 := by
  rw [enqueue, Channel.emit]
  split_ifs with henabled hroom
  · rfl
  · rw [Event.layOut_eq, ok_bind]
    rfl
  · rw [Event.layOut_eq, ok_bind]
    rfl

/-- Records an event, if there is a channel that takes events of that level. -/
def emit (g : Gate) (kind : EventKind) (level : Level) (facts : Facts) (text : String) :
    Checked Gate :=
  match g.events with
  | none => return g
  | some c =>
    if !c.isEnabled level then return g
    else do
      let e ← Event.formatted kind level (split text)
      let e := (e.withProtocol facts.protocol).withPorts facts.sourcePort facts.destinationPort
      return { g with events := some (← enqueue c (← facts.address e)) }

theorem emit_eq (g : Gate) (f : Finding) :
    emit split g f.kind f.level (.of f.flow?) f.text = .ok (g.emit (f.eventIn (split f.text))) := by
  obtain ⟨book, modeWord, events, counters, targets, rings⟩ := g
  cases events with
  | none => rfl
  | some c =>
    rw [emit, Gate.emit]
    by_cases henabled : c.isEnabled f.level
    · simp only [henabled, Bool.not_true, Bool.false_eq_true, if_false, Event.formatted_eq, ok_bind,
        address_eq, enqueue_eq]
      rfl
    · have hsilent : (c.emit (f.eventIn (split f.text))).2 = c := by
        rw [Channel.emit, f.level_eventIn]
        simp [henabled]
      simp only [Option.map_some, hsilent, henabled, Bool.not_false, if_true]
      rfl

/-! ## Deciding -/

/-- Counts a header that could not be read, and reports on it. -/
def invalid (g : Gate) (level : Level) (facts : Facts) (e : HeaderError) : Checked Gate :=
  emit split { g with counters := g.counters.addInvalid } .invalidPacket level facts e.message

/-- What the rule that applies says about a packet; `what` names the rule. -/
def applyRule (g : Gate) (allowed : ProtocolSet) (facts : Facts) (queue : UInt32) (what : String) :
    Checked (Verdict × Gate) :=
  if allowed.permits facts.protocol then do
    let queue := g.mode.queue queue
    let text := what ++ " whitelisted, redirect to queue " ++ toString queue
    return (.redirect queue, ← emit split g .redirect .debug facts text)
  else do
    let text := what ++ " not permitted by " ++ allowed.text
    return (.drop, ← emit split g .protocolMismatch .info facts text)

/-- Parses the ports of a transport header. -/
def parsePorts (protocol : UInt8) : Parser (UInt16 × UInt16) :=
  if protocol = Protocol.tcp then do
    let tcp ← Tcp.parse
    return (← tcp.sourcePort, ← tcp.destinationPort)
  else do
    let udp ← Udp.parse
    return (← udp.sourcePort, ← udp.destinationPort)

/-- Decides about a packet by its ports. -/
def decideByPort (g : Gate) (s : Scan) (facts : Facts) (queue : UInt32) :
    Checked (Verdict × Gate) := do
  match ← parsePorts facts.protocol s with
  | (.error e, _) => return (.pass, ← invalid split g .warn facts e)
  | (.ok (sourcePort, destinationPort), _) =>
    let facts := facts.withPorts sourcePort destinationPort
    match g.book.get? (.port destinationPort) with
    | some allowed =>
      let what := "port " ++ toString destinationPort ++ " " ++ Protocol.name facts.protocol
      applyRule split g allowed facts queue what
    | none => return (.pass, ← emit split g .pass .debug facts "no policy matched")

/-- Decides about a packet whose payload starts at a place in the frame. -/
def decidePacket (g : Gate) (s : Scan) (facts : Facts) (source : Key) (later : Bool)
    (queue : UInt32) : Checked (Verdict × Gate) :=
  let name := Protocol.name facts.protocol
  match g.book.get? source with
  | some allowed => applyRule split g allowed facts queue ("source " ++ name)
  | none =>
    if facts.protocol ≠ Protocol.tcp ∧ facts.protocol ≠ Protocol.udp then do
      let text := "no address policy, " ++ name ++ " passed"
      return (.pass, ← emit split g .pass .debug facts text)
    else if later then do
      let text := "non-first " ++ name ++ " fragment passed"
      return (.pass, ← emit split g .pass .debug facts text)
    else decideByPort split g s facts queue

/-- Decides about an IPv4 packet. -/
def decideIpv4 (g : Gate) (s : Scan) (queue : UInt32) : Checked (Verdict × Gate) := do
  match ← Ipv4.parse s with
  | (.error e, _) => return (.pass, ← invalid split g .warn {} e)
  | (.ok ip, s) =>
    let facts ← Facts.ofIpv4 (← ip.source) (← ip.destination) (← ip.protocol)
    decidePacket split g s facts (.address (.v4 (← ip.source))) (← ip.isLaterFragment) queue

/-- Decides about an IPv6 packet. -/
def decideIpv6 (g : Gate) (s : Scan) (queue : UInt32) : Checked (Verdict × Gate) := do
  match ← Ipv6.parse s with
  | (.error e, _) => return (.drop, ← invalid split g .error {} e)
  | (.ok packet, s) =>
    let source ← packet.header.source
    let facts := Facts.ofIpv6 source (← packet.header.destination) packet.protocol
    decidePacket split g s facts (.address (.v6 source)) packet.laterFragment queue

/-- Decides about a frame. -/
def decide (g : Gate) (frame : List UInt8) (queue : UInt32) : Checked (Verdict × Gate) := do
  match ← Ethernet.parse (.within frame 0) with
  | (.error e, _) => return (.pass, ← invalid split g .warn {} e)
  | (.ok ethernet, s) =>
    match EtherType.ofCode? ethernet.etherType with
    | some .arp =>
      let queue := g.mode.queue queue
      let text := "arp redirected to queue " ++ toString queue
      return (.redirect queue, ← emit split g .redirect .debug {} text)
    | some .ipv4 => decideIpv4 split g s queue
    | some .ipv6 => decideIpv6 split g s queue
    | _ =>
      let text := "non-ip ethertype 0x" ++ Text.hexPadded 4 ethernet.etherType.toNat ++ " passed"
      return (.pass, ← emit split g .pass .debug {} text)

/-- Classifies a frame. -/
def classify (g : Gate) (frame : List UInt8) (queue : UInt32) : Checked (Verdict × Gate) := do
  let (verdict, g) ← decide split g frame queue
  return (verdict, { g with counters := g.counters.addVerdict verdict })

/-- Finds out what is done with a frame of the given verdict. The largest queue number stands in an
error, if there is one. -/
def dispatch (g : Gate) (v : Verdict) : Checked (Step (Disposition RingHandle)) :=
  match v with
  | .redirect _ => do
    let _ ← sub queueCount 1
    return g.dispatch v
  | _ => return g.dispatch v

/-- Counts, classifies and carries out. -/
def process (g : Gate) (frame : List UInt8) (queue : UInt32) :
    Checked (Step (Disposition RingHandle)) := do
  let g := { g with counters := g.counters.arrive queue (UInt64.ofNat frame.length) }
  let (verdict, g) ← classify split g frame queue
  let s ← dispatch g verdict
  let (g, log) := s.gate.carryOut frame s.answer
  return { answer := s.answer, gate := g, log := s.log ++ log }

end Checked

end IngressGate
