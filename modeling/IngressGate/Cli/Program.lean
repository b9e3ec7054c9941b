import IngressGate.Cli.FileTree
import IngressGate.Cli.Help
import IngressGate.Gate
import IngressGate.Log.Sink
import IngressGate.Settings.Review
/-!
# The program

`perform` carries out a command on a `Host`, the part of the world that the program asks: its files,
the filter text of its environment and its interfaces. What comes of it is a `Transcript`, the lines
written so far, which outlives a failure.
-/
namespace IngressGate.Cli

/-- What the program asks of the world. A capture is all that an interface receives until the
program is told to stop. -/
structure Host where
  content : String → Except IoError ByteArray
  filterText : Option String
  capture : String → Except Failure (List Received)

/-- The host of a program that works at a place among files and may not open any interface. -/
def Host.ofPlace (place : Place) (filterText : Option String) : Host where
  content := place.content
  filterText
  capture _ := .error (.io .notPermitted)

/-- Lines written to the standard output and to the standard error. -/
structure Transcript where
  output : List String := []
  errors : List String := []
  deriving DecidableEq, Repr

/-- Why a command fails. -/
inductive CommandError
  /-- The settings cannot be loaded. -/
  | unreadable (failure : Failure)
  /-- The review of the settings found errors. -/
  | rejected
  | noInterface
  | noSuchQueue (queue : UInt32)
  | badSample (error : Sample.Mismatch)
  | failed (failure : Failure)
  deriving DecidableEq, Repr

/-- The wording of the error. -/
def CommandError.message : CommandError → String
  | unreadable f => "Failed to parse config: " ++ f.message
  | rejected => "Validation failed with errors"
  | noInterface => "No interface configured (use --interface)"
  | noSuchQueue queue => s!"Redirect queue {queue} out of range"
  | badSample e => e.message
  | failed f => f.message

/-- A part of a command: it writes lines and may fail. -/
abbrev Script := EStateM CommandError Transcript

namespace Script

/-- Writes lines to the standard output. -/
def print (lines : List String) : Script Unit :=
  modify fun t => { t with output := t.output ++ lines }

/-- Writes lines to the standard error. -/
def complain (lines : List String) : Script Unit :=
  modify fun t => { t with errors := t.errors ++ lines }

/-- Writes log entries. -/
def log (sink : Log.Sink) (entries : List Log.Entry) : Script Unit := print (sink.texts entries)

/-- Goes on with a value, or fails. -/
def ofExcept {ε α : Type} (wrap : ε → CommandError) : Except ε α → Script α
  | .ok a => pure a
  | .error e => throw (wrap e)

end Script

/-- The part of the program that carries out commands, as the log names it. -/
def programTarget : String := "xdpgate"

/-- An entry about the program itself. -/
def information (message : String) (fields : List (String × Log.Value) := []) : Log.Entry :=
  ⟨.info, programTarget, message, fields⟩

/-- Sets up the log. -/
def setUpLog (host : Host) (s : Option LogSettings) : Script Log.Sink := do
  let (sink, complaints) := Log.Sink.setUp host.filterText s
  Script.complain complaints
  return sink

/-- Loads and reviews the settings, and shows the review. -/
def loadReviewed (host : Host) (path : String) : Script Settings := do
  let settings ← Script.ofExcept .unreadable (Settings.load (host.content path))
  let review := settings.review
  Script.print review.lines
  if review.hasErrors then throw .rejected
  return settings

/-- Puts settings in force. -/
def applySettings (sink : Log.Sink) (g : Gate) (s : Settings) : Script Gate := do
  let step := g.apply s
  Script.log sink step.log
  Script.ofExcept .failed step.answer
  return step.gate

/-- Reviews the settings. -/
def validate (path : String) (host : Host) : Script Unit := do
  let _ ← setUpLog host none
  Script.print [s!"[INFO] Validating {path}..."]
  let _ ← loadReviewed host path
  Script.print ["[INFO] Configuration is valid"]

/-- Shows the verdict on a sample frame that arrives on queue zero. -/
def check (path : String) (source : Address) (port : UInt16) (sample : Sample) (host : Host) :
    Script Unit := do
  let sink ← setUpLog host none
  let settings ← loadReviewed host path
  let gate ← applySettings sink {} settings
  let frame ← Script.ofExcept .badSample (sample.frame source port)
  Script.print [(gate.classify frame 0).1.text]

/-- How many frames wait for the consumer at most. -/
def consumerCapacity : Nat := 4096

/-- The queue whose frames are consumed: the fixed one, or the only one that frames arrive on. -/
def consumerQueue (g : Gate) : UInt32 := g.mode.queue 0

/-- Gives the consumed queue a ring. -/
def attachConsumer (g : Gate) : Except CommandError (RingHandle × Gate) :=
  let queue := consumerQueue g
  if queue.toNat < queueCount then
    let (ring, g) := g.openRing queue consumerCapacity
    match g.setTarget queue ring with
    | .ok g => .ok (ring, g)
    | .error e => .error (.failed (.target e))
  else .error (.noSuchQueue queue)

/-- What the consumer says when its ring closes. -/
def consumerEntry (queue : UInt32) (frames : List (List UInt8)) : Log.Entry :=
  information "Consumer ring closed"
    [("queue", .number queue.toNat), ("frames", .number frames.length),
      ("bytes", .number frames.flatten.length)]

/-- The frames that a ring holds. -/
def held (g : Gate) (ring : RingHandle) : List (List UInt8) :=
  match g.rings.get? ring with
  | some r => r.frames
  | none => []

/-- What the observer says when it stops. -/
def observerEntry (tally : Observer.Tally) : Log.Entry :=
  ⟨.debug, programTarget, "Event observer stopped",
    [("rendered", .number tally.rendered), ("malformed", .number tally.malformed),
      ("lost", .number tally.lost.toNat)]⟩

/-- What the observer of a gate has to say, its last words included. -/
def observerEntries (g : Gate) : List Log.Entry :=
  match g.observe with
  | some step => step.log ++ [observerEntry step.answer]
  | none => []

/-- The entries that list all counts. -/
def counterEntries (c : Counters) : List Log.Entry :=
  c.listing.map fun (name, value) => information s!"{name} = {value}"

/-- What is left to say once a capture has ended: by the consumer, by the observer and about the
counts. -/
def closingEntries (g : Gate) (queue : UInt32) (ring : RingHandle) : List Log.Entry :=
  consumerEntry queue (held g ring) :: observerEntries g ++ counterEntries g.counters

/-- Classifies what an interface receives until the capture ends. -/
def serve (host : Host) (interface : String) (g : Gate) :
    Except Failure UInt64 × Gate × List Log.Entry :=
  match host.capture interface with
  | .error e => (.error e, g, [])
  | .ok received =>
    let step := g.serve 0 received
    (step.answer, step.gate,
      information "Classifier running in shadow mode" [("interface", .plain interface)] :: step.log)

/-- Classifies what an interface receives. -/
def run (path : String) (interface : Option String) (host : Host) : Script Unit := do
  let settings ← loadReviewed host path
  let sink ← setUpLog host (some settings.logging)
  let some interface := interface <|> settings.classifier.interface | throw .noInterface
  Script.log sink [information s!"Loading {path}..."]
  let channel := Channel.ofCapacity settings.classifier.eventCapacity
  let gate ← applySettings sink { events := some channel } settings
  let (ring, gate) ← Script.ofExcept id (attachConsumer gate)
  let (served, gate, entries) := serve host interface gate
  Script.log sink (entries ++ closingEntries gate (consumerQueue gate) ring)
  let frames ← Script.ofExcept .failed served
  Script.log sink [information "Classifier stopped" [("frames", .number frames.toNat)]]

/-- The script of a command. -/
def Command.script : Command → Host → Script Unit
  | run path interface => Cli.run path interface
  | validate path => Cli.validate path
  | check path source port sample => Cli.check path source port sample

/-- How the program ends. -/
structure Outcome where
  exitCode : UInt8
  transcript : Transcript
  deriving DecidableEq, Repr

/-- Carries out a command; a failure is reported last. -/
def perform (host : Host) (c : Command) : Outcome :=
  match c.script host {} with
  | .ok _ t => ⟨0, t⟩
  | .error e t => ⟨1, { t with errors := t.errors ++ ["[ERROR] " ++ e.message] }⟩

/-- What a request comes to. -/
def Request.outcome (host : Host) : Request → Outcome
  | .perform command => Cli.perform host command
  | .overview => ⟨0, { output := overviewLines }⟩
  | .explain verb => ⟨0, { output := verb.lines }⟩
  | .explainHelp => ⟨0, { output := helpLines }⟩

/-- What the program does, given its arguments. -/
def outcome (host : Host) (arguments : List String) : Outcome :=
  match Request.ofArguments arguments with
  | .ok request => request.outcome host
  | .error e => ⟨2, { errors := e.lines }⟩

end IngressGate.Cli
