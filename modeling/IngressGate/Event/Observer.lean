import IngressGate.Event.Channel
import IngressGate.Log.Entry
/-!
# Observing events

An observer takes records off a channel and turns each into a log entry of its own severity. Losses
are reported by a warning once the queue is empty, and from time to time while the observer is at
work.
-/
namespace IngressGate

/-- The severity of the log entry of an event. -/
def Level.severity : Level → Log.Severity
  | debug => .debug
  | info => .info
  | warn => .warn
  | error => .error

/-- The text of an address, a dash if there is none. -/
def addressOrDash : Option Address → String
  | some a => a.text
  | none => "-"

/-- The log entry of an event. -/
def Event.entry (e : Event) : Log.Entry where
  severity := e.level.severity
  target := "xdpgate::events"
  message := e.text
  fields := [
    ("ts_ns", .number e.timestamp.toNat),
    ("kind", .name e.kind.name),
    ("src", .plain (addressOrDash e.sourceAddress)),
    ("dst", .plain (addressOrDash e.destinationAddress)),
    ("sport", .number e.sourcePort.toNat),
    ("dport", .number e.destinationPort.toNat),
    ("proto", .number e.protocol.toNat)]

namespace Observer

/-- What an observation came to. -/
structure Tally where
  rendered : Nat := 0
  malformed : Nat := 0
  lost : UInt64 := 0
  deriving DecidableEq, Repr

/-- Two observations together. -/
protected def Tally.add (s t : Tally) : Tally where
  rendered := s.rendered + t.rendered
  malformed := s.malformed + t.malformed
  lost := s.lost + t.lost

instance : Add Tally := ⟨Tally.add⟩

/-- The part of the program that reports on the observer itself. -/
def target : String := "xdpgate::telemetry::observer"

/-- The entry of one record, and whether the record could be read. -/
def render (record : Event.Record) : Bool × Log.Entry :=
  match Event.ofRecord record with
  | .ok e => (true, e.entry)
  | .error e =>
    (false, ⟨.warn, target, "Discarding undecodable event record", [("error", .plain e.message)]⟩)

/-- The warning about lost events, if any were lost. -/
def lossEntries (lost : UInt64) : List Log.Entry :=
  if lost = 0 then []
  else [⟨.warn, target, "Classifier events lost to channel saturation",
    [("lost", .number lost.toNat)]⟩]

/-- Takes everything off a channel: the tally, the entries in order, and the channel after it. -/
def drain (c : Channel) : Tally × List Log.Entry × Channel :=
  let (records, c) := c.drain
  let rendered := records.map render
  let (lost, c) := c.takeLost
  ({ rendered := (rendered.filter (·.1)).length
     malformed := (rendered.filter (!·.1)).length
     lost },
    rendered.map (·.2) ++ lossEntries lost, c)

/-- The tally of one record. -/
def Tally.ofRecord (readable : Bool) : Tally :=
  if readable then { rendered := 1 } else { malformed := 1 }

/-- Reads, resets and reports the count of lost events, if that is due. -/
def reportLost (isDue : Bool) (c : Channel) : Tally × List Log.Entry × Channel :=
  if isDue then
    let (lost, c) := c.takeLost
    ({ lost }, lossEntries lost, c)
  else ({}, [], c)

theorem queue_reportLost (isDue : Bool) (c : Channel) :
    (reportLost isDue c).2.2.queue = c.queue := by
  cases isDue <;> rfl

/-- Works on a channel that nobody emits to any more: takes one record after the other until it is
told to stop or there is none, and then all that are left. Before turn number `i` it is told to stop
if `stop i`, and at the end of that turn a report on losses is due if `due i`. -/
def run (stop due : Nat → Bool) (c : Channel) : Tally × List Log.Entry × Channel :=
  if stop 0 then drain c
  else
    match _h : c.receive with
    | (none, _) => drain c
    | (some record, c') =>
      let (readable, entry) := render record
      let report := reportLost (due 0) c'
      let rest := run (fun i => stop (i + 1)) (fun i => due (i + 1)) report.2.2
      (Tally.ofRecord readable + report.1 + rest.1, entry :: report.2.1 ++ rest.2.1, rest.2.2)
termination_by c.queue.length
decreasing_by
  rw [queue_reportLost]
  exact c.length_queue_receive _h

end Observer

end IngressGate
