import IngressGate.Verdict
/-!
# Counters

Global counts and counts for each of the 64 receive queues. Numbers of queues beyond those are
counted globally alone. All counters wrap at 64 bits.
-/
namespace IngressGate

/-- How many receive queues there are. -/
def queueCount : Nat := 64

/-- The counts of one queue. -/
structure QueueCounters where
  frames : UInt64 := 0
  bytes : UInt64 := 0
  redirected : UInt64 := 0
  missingTarget : UInt64 := 0
  deriving DecidableEq, Repr

/-- Whether a queue is left out of listings. -/
def QueueCounters.isQuiet (q : QueueCounters) : Bool :=
  q.frames = 0 ∧ q.redirected = 0 ∧ q.missingTarget = 0

/-- All counts. -/
structure Counters where
  frames : UInt64 := 0
  passed : UInt64 := 0
  dropped : UInt64 := 0
  redirected : UInt64 := 0
  invalid : UInt64 := 0
  fallbacks : UInt64 := 0
  truncated : UInt64 := 0
  queues : Vector QueueCounters queueCount := Vector.replicate queueCount {}
  deriving DecidableEq, Repr

namespace Counters

/-- Changes the counts of a queue, if there is one of that number. -/
def modifyQueue (c : Counters) (queue : UInt32) (f : QueueCounters → QueueCounters) : Counters :=
  if h : queue.toNat < queueCount then
    { c with queues := c.queues.set queue.toNat (f c.queues[queue.toNat]) }
  else c

/-- The counts of a queue. -/
def queue? (c : Counters) (queue : UInt32) : Option QueueCounters := c.queues[queue.toNat]?

/-- Counts a frame that arrived on a queue. -/
def arrive (c : Counters) (queue : UInt32) (bytes : UInt64) : Counters :=
  c.modifyQueue queue fun q => { q with frames := q.frames + 1, bytes := q.bytes + bytes }

/-- Counts a frame with a header that was needed and could not be read. -/
def addInvalid (c : Counters) : Counters := { c with invalid := c.invalid + 1 }

/-- Counts a frame that its receive buffer cut short. -/
def addTruncated (c : Counters) : Counters := { c with truncated := c.truncated + 1 }

/-- Counts a verdict. -/
def addVerdict (c : Counters) (v : Verdict) : Counters :=
  let c := { c with frames := c.frames + 1 }
  match v with
  | .pass => { c with passed := c.passed + 1 }
  | .drop => { c with dropped := c.dropped + 1 }
  | .redirect queue =>
    { c with redirected := c.redirected + 1 }.modifyQueue queue fun q =>
      { q with redirected := q.redirected + 1 }

/-- Counts a redirect that found no consumer. -/
def addFallback (c : Counters) (queue : UInt32) : Counters :=
  { c with fallbacks := c.fallbacks + 1 }.modifyQueue queue fun q =>
    { q with missingTarget := q.missingTarget + 1 }

/-- The global counts under their names. -/
def globals (c : Counters) : List (String × UInt64) :=
  [("frames", c.frames), ("passed", c.passed), ("dropped", c.dropped),
    ("redirected", c.redirected), ("invalid", c.invalid), ("redirect_fallbacks", c.fallbacks),
    ("truncated", c.truncated)]

/-- The counts of queue number `i` under their names; a quiet queue has none. -/
def ofQueue (i : Nat) (q : QueueCounters) : List (String × UInt64) :=
  if q.isQuiet then []
  else [(s!"queue{i}_rx_frames", q.frames), (s!"queue{i}_rx_bytes", q.bytes),
    (s!"queue{i}_redirected", q.redirected), (s!"queue{i}_missing_target", q.missingTarget)]

/-- All counts under their names, the queues in ascending order. -/
def listing (c : Counters) : List (String × UInt64) :=
  c.globals ++ (List.range queueCount).flatMap fun i =>
    match c.queues[i]? with
    | some q => ofQueue i q
    | none => []

end Counters

end IngressGate
