import IngressGate.Event
/-!
# The event channel

Records wait in a queue of bounded length. An event below the threshold is not recorded; one that
finds the queue full or the receiver gone is counted as lost.
-/
namespace IngressGate

/-- A channel of event records. -/
structure Channel where
  capacity : Nat
  queue : List Event.Record := []
  lost : UInt64 := 0
  threshold : Option Level := none
  isOpen : Bool := true
  clock : UInt64 := 0
  deriving Repr

namespace Channel

/-- The channel of a given capacity, empty and without a threshold. -/
def ofCapacity (capacity : Nat) : Channel := { capacity := capacity }

/-- Whether events of a level are recorded. -/
def isEnabled (c : Channel) (level : Level) : Bool :=
  match c.threshold with
  | none => true
  | some t => t.rank ≤ level.rank

/-- Whether one more record can be queued. -/
def hasRoom (c : Channel) : Bool := c.isOpen && c.queue.length < c.capacity

/-- Records an event, stamped by the clock of the channel, and tells whether it was queued. -/
def emit (c : Channel) (e : Event) : Bool × Channel :=
  if !c.isEnabled e.level then (false, c)
  else if c.hasRoom then
    (true, { c with queue := c.queue ++ [(e.withTimestamp c.clock).encode] })
  else (false, { c with lost := c.lost + 1 })

/-- Takes the oldest record. -/
def receive (c : Channel) : Option Event.Record × Channel :=
  match c.queue with
  | [] => (none, c)
  | record :: queue => if c.isOpen then (some record, { c with queue }) else (none, c)

/-- A record that is taken is not in the queue any more. -/
theorem length_queue_receive (c : Channel) {record : Event.Record} {c' : Channel}
    (h : c.receive = (some record, c')) : c'.queue.length < c.queue.length := by
  rw [receive] at h
  split at h
  · cases h
  · next hqueue =>
    split at h
    · cases h
      rw [hqueue]
      exact Nat.lt_succ_self _
    · cases h

/-- Takes all records, oldest first. -/
def drain (c : Channel) : List Event.Record × Channel :=
  if c.isOpen then (c.queue, { c with queue := [] }) else ([], c)

/-- Reads and resets the count of lost events. -/
def takeLost (c : Channel) : UInt64 × Channel := (c.lost, { c with lost := 0 })

/-- Sets or clears the threshold. -/
def setThreshold (c : Channel) (threshold : Option Level) : Channel := { c with threshold }

/-- Drops the receiver. What is queued stays there, out of reach. -/
def close (c : Channel) : Channel := { c with isOpen := false }

end Channel

end IngressGate
