import IngressGate.Decision
import IngressGate.Event.Observer
import IngressGate.Failure
import IngressGate.Ring
import IngressGate.Targets
/-!
# The gate

The whole state of a running classifier and the operations on it. Each operation gives its answer,
the gate after it and what it wrote to the log. Those that fail leave the gate as it was.
-/
namespace IngressGate

/-- A gate: the rules in force, the redirect mode as one word, the event channel if there is one,
the counters, the consumers of the queues and their rings. -/
structure Gate where
  book : Book := .empty
  modeWord : UInt32 := RedirectMode.toWord (.fixed 0)
  events : Option Channel := none
  counters : Counters := {}
  targets : Targets RingHandle := .empty
  rings : Rings := {}

/-- What came of an operation. -/
structure Step (α : Type) where
  answer : α
  gate : Gate
  log : List Log.Entry := []

/-- A frame that a capture received, with its length on the wire, or the end of the capture. -/
inductive Received
  | frame (bytes : List UInt8) (queue : UInt32) (wireLength : Nat)
  | failure (error : Failure)
  deriving DecidableEq, Repr

namespace Gate

/-- The part of the program that reports on changes of the rules. -/
def controlTarget : String := "xdpgate::control"

/-- The part of the program that reports on frames. -/
def frameTarget : String := "xdpgate::shadow"

/-! ## Rules and modes -/

/-- The redirect mode. -/
def mode (g : Gate) : RedirectMode := .ofWord g.modeWord

/-- Sets the redirect mode. -/
def setMode (g : Gate) (m : RedirectMode) : Gate := { g with modeWord := m.toWord }

/-- Sets or clears the event threshold, if there is a channel. -/
def setThreshold (g : Gate) (threshold : Option Level) : Gate :=
  { g with events := g.events.map (·.setThreshold threshold) }

/-- Sets the rule of a key. -/
def insertRule (g : Gate) (k : Key) (v : ProtocolSet) : Step (Except CapacityExceeded Unit) :=
  match g.book.insert k v with
  | .ok book =>
    { answer := .ok ()
      gate := { g with book }
      log := [⟨.debug, controlTarget, "Policy entry upserted",
        [("key", .plain k.text), ("mask", .plain v.text)]⟩] }
  | .error e => { answer := .error e, gate := g }

/-- Takes its rule from a key, and tells whether there was one. -/
def eraseRule (g : Gate) (k : Key) : Step Bool :=
  let (found, book) := g.book.erase k
  { answer := found
    gate := { g with book }
    log := if found then
      [⟨.debug, controlTarget, "Policy entry deleted", [("key", .plain k.text)]⟩] else [] }

/-- Puts a whole ruling in force. -/
def replaceRules (g : Gate) (r : Ruling) : Except CapacityExceeded Gate :=
  match Book.ofRuling r with
  | .ok book => .ok { g with book }
  | .error e => .error e

/-- Puts settings in force: the rules, then the redirect mode and the event threshold. -/
def apply (g : Gate) (s : Settings) : Step (Except Failure Unit) :=
  match s.ruling with
  | .error e => { answer := .error (.config (.entry e)), gate := g }
  | .ok ruling =>
    match s.classifier.eventThreshold with
    | .error e => { answer := .error (.config (.level e)), gate := g }
    | .ok threshold =>
      match g.replaceRules ruling with
      | .error e => { answer := .error (.capacity e), gate := g }
      | .ok g' =>
        { answer := .ok ()
          gate := (g'.setMode s.classifier.redirectMode).setThreshold threshold
          log := [⟨.info, controlTarget, "Policy applied",
            [("ipv4", .number ruling.ipv4.size), ("ipv6", .number ruling.ipv6.size),
              ("ports", .number ruling.ports.size),
              ("redirect", .plain s.classifier.redirectMode.text)]⟩] }

/-! ## Consumers -/

/-- Gives a queue a consumer. -/
def setTarget (g : Gate) (queue : UInt32) (ring : RingHandle) : Except TargetError Gate :=
  (g.targets.set queue ring).map fun targets => { g with targets }

/-- Takes its consumer from a queue. -/
def clearTarget (g : Gate) (queue : UInt32) : Except TargetError (Option RingHandle × Gate) :=
  (g.targets.clear queue).map fun (old, targets) => (old, { g with targets })

/-- Opens a ring. -/
def openRing (g : Gate) (queue : UInt32) (capacity : Nat) : RingHandle × Gate :=
  let (h, rings) := g.rings.openRing queue capacity
  (h, { g with rings })

/-- Changes a ring. -/
def modifyRing (g : Gate) (h : RingHandle) (f : Ring → Ring) : Gate :=
  { g with rings := g.rings.modify h f }

/-! ## Frames -/

/-- What is decided about a frame that arrived on a queue. -/
def decide (g : Gate) (frame : List UInt8) (queue : UInt32) : Finding :=
  decideFrame g.book.get? (g.mode.queue queue) frame

/-- Records an event, if there is a channel. -/
def emit (g : Gate) (e : Event) : Gate := { g with events := g.events.map fun c => (c.emit e).2 }

/-- Counts what was decided about a frame. -/
def countFinding (f : Finding) (c : Counters) : Counters :=
  (if f.isInvalid then c.addInvalid else c).addVerdict f.verdict

/-- Classifies a frame, records the event and counts the verdict. -/
def classify (g : Gate) (frame : List UInt8) (queue : UInt32) : Verdict × Gate :=
  let finding := g.decide frame queue
  let g := g.emit finding.event
  (finding.verdict, { g with counters := countFinding finding g.counters })

/-- Finds out what is done with a frame of the given verdict, and counts it. -/
def dispatch (g : Gate) (v : Verdict) : Step (Disposition RingHandle) :=
  let d := g.targets.dispatch v
  { answer := d, gate := { g with counters := d.count g.counters }, log := d.entries }

/-- Carries out a disposition: a frame that is to be pushed goes to its ring. -/
def carryOut (g : Gate) (frame : List UInt8) (d : Disposition RingHandle) :
    Gate × List Log.Entry :=
  match d with
  | .push queue h =>
    let (pushed, rings) := g.rings.push h frame
    ({ g with rings }, if pushed then [] else
      [⟨.debug, frameTarget, "Consumer ring full, frame dropped",
        [("queue", .number queue.toNat)]⟩])
  | _ => (g, [])

/-- Counts, classifies and carries out: all that happens to one frame. -/
def process (g : Gate) (frame : List UInt8) (queue : UInt32) : Step (Disposition RingHandle) :=
  let g := { g with counters := g.counters.arrive queue (UInt64.ofNat frame.length) }
  let (verdict, g) := g.classify frame queue
  let s := g.dispatch verdict
  let (g, log) := s.gate.carryOut frame s.answer
  { answer := s.answer, gate := g, log := s.log ++ log }

/-- Counts a frame that the receive buffer cut short. -/
def noteLength (g : Gate) (wireLength captured : Nat) : Gate × List Log.Entry :=
  if captured < wireLength then
    ({ g with counters := g.counters.addTruncated },
      [⟨.debug, frameTarget, "Frame larger than receive buffer, classified truncated",
        [("wire_len", .number wireLength), ("captured", .number captured)]⟩])
  else (g, [])

/-- Processes what a capture received, each frame cut to the size of the receive buffer, until the
capture fails or there is no more. The answer is the number of frames on top of `count`. -/
def serve (g : Gate) (count : UInt64) : List Received → Step (Except Failure UInt64)
  | [] => { answer := .ok count, gate := g }
  | .failure e :: _ =>
    { answer := .error e
      gate := g
      log := [⟨.warn, frameTarget, "Capture failed", [("error", .plain e.message)]⟩] }
  | .frame bytes queue wireLength :: rest =>
    let captured := bytes.take Ethernet.maxFrameSize
    let (g, cutLog) := g.noteLength wireLength captured.length
    let s := g.process captured queue
    let r := s.gate.serve (count + 1) rest
    { answer := r.answer, gate := r.gate, log := cutLog ++ s.log ++ r.log }

/-! ## Events -/

/-- Lets an observer take everything off the channel; `none` without a channel. -/
def observe (g : Gate) : Option (Step Observer.Tally) :=
  g.events.map fun c =>
    let (tally, log, c) := Observer.drain c
    { answer := tally, gate := { g with events := some c }, log }

end Gate

end IngressGate
