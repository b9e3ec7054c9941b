import IngressGate.Address.Text
import IngressGate.Event.Message
import IngressGate.Frame.Reader
import IngressGate.Text.Case
/-!
# Classifier events

An event says what became of a frame and why. It travels as a record of 112 bytes, which
`Event.encode` writes and `Event.decode` reads.
-/
namespace IngressGate

/-- How severe an event is. -/
inductive Level
  | debug
  | info
  | warn
  | error
  deriving DecidableEq, Repr

namespace Level

/-- The rank of a level, rising with severity. -/
def rank : Level → UInt8
  | debug => 0
  | info => 1
  | warn => 2
  | error => 3

/-- The level of a rank. -/
def ofRank? (n : UInt8) : Option Level :=
  if n = 0 then some debug
  else if n = 1 then some info
  else if n = 2 then some warn
  else if n = 3 then some error
  else none

@[simp] theorem ofRank?_rank (l : Level) : ofRank? l.rank = some l := by cases l <;> rfl

/-- The name of a level. -/
def name : Level → String
  | debug => "debug"
  | info => "info"
  | warn => "warn"
  | error => "error"

/-- A text that names no level. -/
structure Unknown where
  text : String
  deriving DecidableEq, Repr

/-- The wording of the error, with the text in lower case. -/
def Unknown.message (e : Unknown) : String :=
  let shown := Text.lowercase e.text
  s!"unknown event level '{shown}'"

/-- The level that a text names, in any case. -/
def ofText (s : String) : Except Unknown Level :=
  let key := Text.lowercase s
  if key = "debug" then .ok debug
  else if key = "info" then .ok info
  else if key = "warn" ∨ key = "warning" then .ok warn
  else if key = "error" then .ok error
  else .error ⟨s⟩

end Level

/-- What an event reports. -/
inductive EventKind
  | pass
  | drop
  | redirect
  | protocolMismatch
  | invalidPacket
  deriving DecidableEq, Repr

namespace EventKind

/-- The number of a kind in a record. -/
def code : EventKind → UInt8
  | pass => 1
  | drop => 2
  | redirect => 3
  | protocolMismatch => 4
  | invalidPacket => 5

/-- The kind of a number. -/
def ofCode? (n : UInt8) : Option EventKind :=
  if n = 1 then some pass
  else if n = 2 then some drop
  else if n = 3 then some redirect
  else if n = 4 then some protocolMismatch
  else if n = 5 then some invalidPacket
  else none

@[simp] theorem ofCode?_code (k : EventKind) : ofCode? k.code = some k := by cases k <;> rfl

/-- The name of a kind. -/
def name : EventKind → String
  | pass => "pass"
  | drop => "drop"
  | redirect => "redirect"
  | protocolMismatch => "proto_mismatch"
  | invalidPacket => "invalid_packet"

end EventKind

/-- One event. An IPv4 address takes up the first four octets of its field; `ipVersion` is zero
when there are no addresses. -/
structure Event where
  timestamp : UInt64 := 0
  source : Vector UInt8 16 := Vector.replicate 16 0
  destination : Vector UInt8 16 := Vector.replicate 16 0
  sourcePort : UInt16 := 0
  destinationPort : UInt16 := 0
  protocol : UInt8 := 0
  ipVersion : UInt8 := 0
  kind : EventKind
  level : Level
  message : Vector UInt8 Message.size
  deriving DecidableEq, Repr

namespace Event

/-- The size of a record. -/
def recordSize : Nat := 112

/-- An encoded event. -/
abbrev Record := Vector UInt8 recordSize

/-- An event whose message is written part by part. -/
def ofParts (kind : EventKind) (level : Level) (parts : List String) : Event :=
  { kind, level, message := Message.ofParts parts }

/-- An event with a message of one piece. -/
def ofText (kind : EventKind) (level : Level) (text : String) : Event := ofParts kind level [text]

/-- The event between two IPv4 addresses. -/
def withIpv4 (e : Event) (source destination : Ipv4Address) : Event :=
  { e with
    source := Bytes.padded 16 source.octets.toList
    destination := Bytes.padded 16 destination.octets.toList
    ipVersion := 4 }

/-- The event between two IPv6 addresses. -/
def withIpv6 (e : Event) (source destination : Ipv6Address) : Event :=
  { e with source := source.octets, destination := destination.octets, ipVersion := 6 }

/-- The event of a protocol. -/
def withProtocol (e : Event) (protocol : UInt8) : Event := { e with protocol }

/-- The event between two ports. -/
def withPorts (e : Event) (sourcePort destinationPort : UInt16) : Event :=
  { e with sourcePort, destinationPort }

/-- The event at a given time. -/
def withTimestamp (e : Event) (timestamp : UInt64) : Event := { e with timestamp }

/-- The address in a field of an event of the given IP version. -/
def addressIn (ipVersion : UInt8) (field : Vector UInt8 16) : Option Address :=
  if ipVersion = 4 then some (.v4 (.ofBytes field[0] field[1] field[2] field[3]))
  else if ipVersion = 6 then some (.v6 ⟨field⟩)
  else none

/-- The source address, if there is one. -/
def sourceAddress (e : Event) : Option Address := addressIn e.ipVersion e.source

/-- The destination address, if there is one. -/
def destinationAddress (e : Event) : Option Address := addressIn e.ipVersion e.destination

/-- The text of the message. -/
def text (e : Event) : String := Message.text e.message

/-- The record of an event, numbers most significant byte first. -/
def encode (e : Event) : Record :=
  ⟨(Bytes.ofU64 e.timestamp ++ e.source.toList ++ e.destination.toList ++
      Bytes.ofU16 e.sourcePort ++ Bytes.ofU16 e.destinationPort ++
      [e.protocol, e.ipVersion, e.kind.code, e.level.rank] ++ e.message.toList).toArray,
    by simp [recordSize]; rfl⟩

/-- The event of a record; the last byte of its message is taken to be zero. -/
def ofRecord (b : Record) : Except HeaderError Event := do
  let some kind := EventKind.ofCode? b[46] | throw (.malformed .recordKind)
  let some level := Level.ofRank? b[47] | throw (.malformed .recordLevel)
  return {
    timestamp := Bytes.u64 (b.extract 0 8).toList
    source := Bytes.slice b 8 16
    destination := Bytes.slice b 24 16
    sourcePort := Bytes.u16 b[40] b[41]
    destinationPort := Bytes.u16 b[42] b[43]
    protocol := b[44]
    ipVersion := b[45]
    kind
    level
    message := (Bytes.slice b 48 Message.size).set 63 0 }

/-- Reads the record at the start of `bs`. -/
def decode (bs : List UInt8) : Except HeaderError Event :=
  if h : recordSize ≤ bs.length then
    ofRecord ⟨(bs.take recordSize).toArray, by simp [h]⟩
  else
    .error (.truncated "log record" recordSize bs.length)

end Event

end IngressGate
