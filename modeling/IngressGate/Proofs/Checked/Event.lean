import IngressGate.Proofs.Checked.Message
/-!
# Building and encoding events with checks

An event is built by copying into its fields, and its record by copying the fields to their places,
one behind the other. No copy leaves its field or has the wrong length, and what comes of them are
the event and the record.
-/
namespace IngressGate.Event

open Checked

variable (e : Event)

/-! ## Building -/

/-- Writes a message into an event, in place of any other. -/
def writeMessage (parts : List String) : Checked Event := do
  let w ← parts.foldlM Message.Writer.write .start
  return { e with message := w.field }

/-- An event whose message is formatted in place. -/
def formatted (kind : EventKind) (level : Level) (parts : List String) : Checked Event := do
  let e ← writeMessage { kind, level, message := zeros Message.size } [""]
  e.writeMessage parts

/-- Copies two IPv4 addresses into an event. -/
def copyIpv4 (source destination : Ipv4Address) : Checked Event := do
  let sourceField ← copyInto (zeros 16) 0 4 source.octets.toList
  let destinationField ← copyInto (zeros 16) 0 4 destination.octets.toList
  return { e with source := sourceField, destination := destinationField, ipVersion := 4 }

theorem writeMessage_eq (parts : List String) :
    e.writeMessage parts = .ok { e with message := Message.ofParts parts } := by
  have hstart : Message.Writer.start = .holding [] := rfl
  rw [writeMessage, hstart, Message.Writer.foldlM_write parts (by decide)]
  rfl

theorem formatted_eq (kind : EventKind) (level : Level) (parts : List String) :
    formatted kind level parts = .ok (ofParts kind level parts) := by
  rw [formatted, writeMessage_eq, ok_bind, writeMessage_eq, ofParts]

/-- Octets that are copied to the start of an empty field. -/
theorem copyInto_start {n width : Nat} (octets : Vector UInt8 width) (h : width ≤ n) :
    copyInto (zeros n) 0 width octets.toList = .ok (Bytes.padded n octets.toList) := by
  have hlength : 0 + octets.toList.length = width := by rw [Vector.length_toList, Nat.zero_add]
  have hcopy := copyInto_padded [] rfl hlength h
  rwa [List.nil_append] at hcopy

theorem copyIpv4_eq (source destination : Ipv4Address) :
    e.copyIpv4 source destination = .ok (e.withIpv4 source destination) := by
  rw [copyIpv4, copyInto_start _ (by decide), ok_bind, copyInto_start _ (by decide), ok_bind,
    withIpv4]
  rfl

/-! ## Encoding -/

/-- Lays the parts of an event out in a record. -/
def layOut : Checked Record := do
  let record ← copyInto (zeros recordSize) 0 8 (Bytes.ofU64 e.timestamp)
  let record ← copyInto record 8 24 e.source.toList
  let record ← copyInto record 24 40 e.destination.toList
  let record ← copyInto record 40 42 (Bytes.ofU16 e.sourcePort)
  let record ← copyInto record 42 44 (Bytes.ofU16 e.destinationPort)
  let record ← put record 44 e.protocol
  let record ← put record 45 e.ipVersion
  let record ← put record 46 e.kind.code
  let record ← put record 47 e.level.rank
  copyInto record 48 recordSize e.message.toList

theorem layOut_eq : e.layOut = .ok e.encode := by
  rw [layOut, zeros]
  -- each step starts at the number of bytes that the steps before it have written
  iterate 5 rw [copyInto_padded _ (by simp) (by simp) (by decide), ok_bind]
  iterate 4 rw [put_padded _ (by simp) (by decide), ok_bind]
  rw [copyInto_padded _ (by simp) (by simp; rfl) (by decide)]
  refine congrArg Except.ok (Eq.trans (congrArg _ ?_) (padded_toList e.encode))
  simp [toList_encode, middle, Bytes.ofU16, Bytes.digits]

end IngressGate.Event
