import IngressGate.Proofs.Gate.Arrivals
import IngressGate.Proofs.Gate.Mode
/-!
# What the counters of a queue tell

The counters of a queue tell how many frames arrived on it and how many bytes these had, and how
many frames that were to be redirected to it found no consumer there. Its count of redirected frames
is written before the consumer is looked up: it counts the frames that were pushed to the consumer
together with those that found none. So it is the number of pushes exactly if no frame was missed.
-/
namespace IngressGate

namespace Arrival
variable (a : Arrival) (q : Fin queueCount)

/-- The frame arrives on a queue. -/
def isOn : Bool := a.queue.toNat = q.val

/-- The verdict is to redirect the frame to a queue. -/
def isRedirectedTo : Bool := a.verdict.queue?.any fun queue => queue.toNat = q.val

/-- The frame is pushed to the consumer of a queue. -/
def isPushedTo : Bool :=
  match a.disposition with
  | .push queue _ => queue.toNat = q.val
  | _ => false

/-- The verdict is to redirect the frame to a queue, and the queue has no consumer. -/
def isMissedBy : Bool :=
  a.verdict.queue?.any fun queue => queue.toNat = q.val ∧ a.gate.targets.get? queue = none

theorem any_fallback? :
    (a.disposition.fallback?.any fun queue => queue.toNat = q.val) = a.isMissedBy q := by
  rw [isMissedBy, disposition_eq, Targets.fallback?_dispatch]
  cases a.verdict.queue? with
  | none => rfl
  | some queue => cases h : a.gate.targets.get? queue <;> simp [h]

/-- A frame that is redirected to a queue is pushed to its consumer or finds none. -/
theorem toNat_isRedirectedTo :
    (a.isRedirectedTo q).toNat = (a.isPushedTo q).toNat + (a.isMissedBy q).toNat := by
  rw [isRedirectedTo, isPushedTo, isMissedBy, disposition_eq]
  cases a.verdict with
  | pass => rfl
  | drop => rfl
  | redirect queue =>
    rw [Targets.dispatch_redirect]
    cases h : a.gate.targets.get? queue <;> simp [Verdict.queue?, h]

end Arrival

namespace QueueCounters

/-- What the counters of a queue say of the arrivals that they have counted, up to 64 bits. -/
structure Tell (c : QueueCounters) (as : List Arrival) (q : Fin queueCount) : Prop where
  frames_eq : c.frames = .ofNat (as.countP (·.isOn q))
  bytes_eq : c.bytes = .ofNat ((as.filter (·.isOn q)).map (·.frame.length)).sum
  missingTarget_eq : c.missingTarget = .ofNat (as.countP (·.isMissedBy q))
  redirected_eq : c.redirected = .ofNat (as.countP (·.isRedirectedTo q))
  /-- The frames without a consumer are among those that count as redirected. -/
  countP_isRedirectedTo : as.countP (·.isRedirectedTo q) =
    as.countP (·.isPushedTo q) + as.countP (·.isMissedBy q)
  redirected_eq_pushed_iff :
    c.redirected = .ofNat (as.countP (·.isPushedTo q)) ↔ c.missingTarget = 0

end QueueCounters

namespace Counters

theorem sum_filter_map {α : Type} (p : α → Bool) (amount : α → Nat) (xs : List α) :
    ((xs.filter p).map amount).sum = (xs.map fun x => if p x then amount x else 0).sum := by
  induction xs with
  | nil => rfl
  | cons x xs ih => cases hx : p x <;> simp [hx, ih]

/-- The counters of a queue tell of all arrivals since they were fresh. -/
theorem tell_foldl_account (as : List Arrival) (q : Fin queueCount) :
    (as.foldl account {}).queues[q].Tell as q := by
  have hstep (c : Counters) (a : Arrival) := getElem_account q.isLt c a
  have hfresh : ({} : Counters).queues[q] = {} := by simp
  have hframes : (as.foldl account {}).queues[q].frames =
      ({} : Counters).queues[q].frames + .ofNat (as.countP (·.isOn q)) :=
    Run.counted_uses (fun c : Counters => c.queues[q].frames)
      (fun c a => by simpa [Arrival.isOn] using congrArg QueueCounters.frames (hstep c a)) {} as
  have hbytes : (as.foldl account {}).queues[q].bytes = ({} : Counters).queues[q].bytes +
      .ofNat (as.map fun a => if a.isOn q then a.frame.length else 0).sum :=
    Run.summed_uses (fun c : Counters => c.queues[q].bytes)
      (fun c a => by
        have hone := congrArg QueueCounters.bytes (hstep c a)
        split_ifs at hone <;> simp_all [Arrival.isOn]) {} as
  have hmissing : (as.foldl account {}).queues[q].missingTarget =
      ({} : Counters).queues[q].missingTarget + .ofNat (as.countP (·.isMissedBy q)) :=
    Run.counted_uses (fun c : Counters => c.queues[q].missingTarget)
      (fun c a => by
        rw [← a.any_fallback? q]
        exact congrArg QueueCounters.missingTarget (hstep c a)) {} as
  have hredirected : (as.foldl account {}).queues[q].redirected =
      ({} : Counters).queues[q].redirected + .ofNat (as.countP (·.isRedirectedTo q)) :=
    Run.counted_uses (fun c : Counters => c.queues[q].redirected)
      (fun c a => congrArg QueueCounters.redirected (hstep c a)) {} as
  rw [hfresh, UInt64.zero_add] at hframes hbytes hmissing hredirected
  have hsplit : as.countP (·.isRedirectedTo q) =
      as.countP (·.isPushedTo q) + as.countP (·.isMissedBy q) :=
    Run.countP_eq_add (fun a => a.toNat_isRedirectedTo q) as
  refine ⟨hframes, ?_, hmissing, hredirected, hsplit, ?_⟩
  · rw [hbytes, sum_filter_map]
  · rw [hredirected, hsplit, UInt64.ofNat_add, ← hmissing, UInt64.add_eq_left]

end Counters

namespace Gate

/-- **The counters of a queue** after every run that starts with fresh counters and in which frames
are classified by being processed: the frames and bytes that arrived on the queue are counted as
such, and so are the frames that found no consumer; the count of redirected frames is that of the
pushes only where there are no such frames, which it counts as well. -/
theorem queueCounters_tell (g : Gate) (ops : List Operation) (hfresh : g.counters = {})
    (hwhole : ∀ op ∈ ops, op.isWhole = true) (q : Fin queueCount) :
    (g.after ops).counters.queues[q].Tell (g.arrivals ops) q := by
  rw [counters_after hwhole, hfresh]
  exact Counters.tell_foldl_account _ q

/-- The number of the first queue. -/
def firstQueue : Fin queueCount := ⟨0, by decide⟩

/-- A run in which the consumer of a queue is set, replaced and cleared, with one frame for each. -/
def replacedRun : List Operation :=
  [.change (.openRing 0 1), .change (.openRing 0 1), .change (.setTarget 0 ⟨0⟩),
    .pass (.process arpFrame 0), .change (.setTarget 0 ⟨1⟩), .pass (.process arpFrame 0),
    .change (.clearTarget 0), .pass (.process arpFrame 0), .pass (.process [] 0)]

theorem queueCounters_tell_replacedRun :
    ({} : Gate).counters = {} ∧ (∀ op ∈ replacedRun, op.isWhole = true) ∧
      (after {} replacedRun).counters.queues[firstQueue].Tell (arrivals {} replacedRun) firstQueue ∧
      (after {} replacedRun).counters.queues[firstQueue] =
        { frames := 4, bytes := 42, redirected := 3, missingTarget := 1 } :=
  have hwhole : ∀ op ∈ replacedRun, op.isWhole = true := by decide
  ⟨rfl, hwhole, queueCounters_tell {} replacedRun rfl hwhole firstQueue, by decide +kernel⟩

/-- A frame that is to be redirected to a queue without a consumer is pushed nowhere, and is counted
as redirected to this queue and as missing a consumer there. -/
theorem redirected_ne_pushes :
    let ops : List Operation := [.pass (.process arpFrame 0)]
    (arrivals {} ops).countP (·.isPushedTo firstQueue) = 0 ∧
      (arrivals {} ops).countP (·.isMissedBy firstQueue) = 1 ∧
      (after {} ops).counters.queues[firstQueue].redirected = 1 ∧
      (after {} ops).counters.queues[firstQueue].missingTarget = 1 := by
  decide +kernel

end Gate

end IngressGate
