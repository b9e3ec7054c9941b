import IngressGate.Counters
import IngressGate.Log.Entry
import IngressGate.Verdict
/-!
# Redirect targets

Every receive queue has a slot for the consumer that takes its redirected frames. `Targets.dispatch`
turns a verdict into what the host does with the frame: without a consumer, a redirected frame is
delivered like any other.
-/
namespace IngressGate

/-- Why a queue has no consumer. -/
inductive TargetError
  | missing (queue : UInt32)
  | outOfRange (queue : UInt32)
  deriving DecidableEq, Repr

/-- The wording of the error. -/
def TargetError.message : TargetError → String
  | missing queue => s!"no consumer registered for queue {queue}"
  | outOfRange queue => s!"queue {queue} out of range (max {queueCount - 1})"

/-- The consumers of the queues. -/
structure Targets (α : Type) where
  slots : Vector (Option α) queueCount
  deriving Repr

/-- What the host does with a frame. -/
inductive Disposition (α : Type)
  /-- The frame goes on into the network stack; a redirect came to this for the given reason. -/
  | deliver (reason : Option TargetError)
  | discard
  | push (queue : UInt32) (target : α)
  deriving DecidableEq, Repr

namespace Targets
variable {α : Type}

/-- No queue has a consumer. -/
def empty : Targets α := ⟨Vector.replicate queueCount none⟩

/-- Gives a queue a consumer, in place of any other. -/
def set (t : Targets α) (queue : UInt32) (target : α) : Except TargetError (Targets α) :=
  if h : queue.toNat < queueCount then .ok ⟨t.slots.set queue.toNat (some target)⟩
  else .error (.outOfRange queue)

/-- Takes its consumer from a queue. -/
def clear (t : Targets α) (queue : UInt32) : Except TargetError (Option α × Targets α) :=
  if h : queue.toNat < queueCount then
    .ok (t.slots[queue.toNat], ⟨t.slots.set queue.toNat none⟩)
  else .error (.outOfRange queue)

/-- The consumer of a queue. -/
def get (t : Targets α) (queue : UInt32) : Except TargetError α :=
  if h : queue.toNat < queueCount then
    match t.slots[queue.toNat] with
    | some target => .ok target
    | none => .error (.missing queue)
  else .error (.outOfRange queue)

/-- How many queues have a consumer. -/
def registered (t : Targets α) : Nat := t.slots.toList.countP (·.isSome)

/-- What is done with a frame of the given verdict. -/
def dispatch (t : Targets α) : Verdict → Disposition α
  | .pass => .deliver none
  | .drop => .discard
  | .redirect queue =>
    match t.get queue with
    | .ok target => .push queue target
    | .error e => .deliver (some e)

end Targets

namespace Disposition
variable {α : Type}

/-- Counts a redirect that came to a delivery. -/
def count (d : Disposition α) (c : Counters) : Counters :=
  match d with
  | deliver (some (.missing queue)) | deliver (some (.outOfRange queue)) => c.addFallback queue
  | _ => c

/-- The part of the program that reports on dispositions. -/
def logTarget : String := "xdpgate::dataplane::dispatch"

/-- What the log says about a disposition. -/
def entries : Disposition α → List Log.Entry
  | deliver (some (.missing queue)) =>
    [⟨.debug, logTarget, "No consumer for redirect, delivering to stack",
      [("queue", .number queue.toNat)]⟩]
  | deliver (some (.outOfRange queue)) =>
    [⟨.warn, logTarget, "Redirect queue invalid, delivering to stack",
      [("queue", .number queue.toNat), ("error", .plain (TargetError.outOfRange queue).message)]⟩]
  | _ => []

end Disposition

end IngressGate
