import Mathlib.Tactic.Common
import IngressGate.Counters
import IngressGate.Proofs.Targets
/-!
# Counters

A change to the counts of one queue, seen from outside: it leaves the global counts and the other
queues as they were, and there is nothing to change where there is no queue of that number. What is
counted adds to the global counts, and to those of its queue.
-/
namespace IngressGate.Counters

/-- A change to one queue leaves everything but the queues as it was. -/
theorem modifyQueue_eq (c : Counters) (q : UInt32) (f : QueueCounters → QueueCounters) :
    c.modifyQueue q f = { c with queues := (c.modifyQueue q f).queues } := by
  rw [modifyQueue]
  split <;> rfl

theorem getElem_modifyQueue (c : Counters) (q : UInt32) (f : QueueCounters → QueueCounters)
    {i : Nat} (hi : i < queueCount) :
    (c.modifyQueue q f).queues[i] = if q.toNat = i then f c.queues[i] else c.queues[i] := by
  rw [modifyQueue]
  split
  · rw [Vector.getElem_set]
    split
    · next h => simp only [h]
    · rfl
  · next h => rw [if_neg (by omega)]

theorem getElem_arrive {i : Nat} (hi : i < queueCount) (c : Counters) (q : UInt32) (n : UInt64) :
    (c.arrive q n).queues[i] = { c.queues[i] with
      frames := c.queues[i].frames + if q.toNat = i then 1 else 0
      bytes := c.queues[i].bytes + if q.toNat = i then n else 0 } := by
  rw [arrive, getElem_modifyQueue]
  split_ifs <;> simp

theorem getElem_addVerdict {i : Nat} (hi : i < queueCount) (c : Counters) (v : Verdict) :
    (c.addVerdict v).queues[i] = { c.queues[i] with
      redirected := c.queues[i].redirected +
        if v.queue?.any fun q => q.toNat = i then 1 else 0 } := by
  cases v with
  | pass => simp [addVerdict, Verdict.queue?]
  | drop => simp [addVerdict, Verdict.queue?]
  | redirect q =>
    simp only [addVerdict, getElem_modifyQueue, Verdict.queue?, Option.any_some, decide_eq_true_eq]
    split_ifs <;> simp

theorem getElem_addFallback {i : Nat} (hi : i < queueCount) (c : Counters) (q : UInt32) :
    (c.addFallback q).queues[i] = { c.queues[i] with
      missingTarget := c.queues[i].missingTarget + if q.toNat = i then 1 else 0 } := by
  rw [addFallback, getElem_modifyQueue]
  split_ifs <;> simp

theorem isSome_queue? (c : Counters) (q : UInt32) : (c.queue? q).isSome ↔ q.toNat < queueCount := by
  simp [queue?]

theorem queue?_modifyQueue (c : Counters) (q q' : UInt32) (f : QueueCounters → QueueCounters) :
    (c.modifyQueue q f).queue? q' = (c.queue? q').map fun k => if q = q' then f k else k := by
  by_cases hq' : q'.toNat < queueCount
  · simp only [queue?, Vector.getElem?_eq_getElem hq', getElem_modifyQueue c q f hq',
      Option.map_some, UInt32.toNat_inj]
  · simp only [queue?, Vector.getElem?_eq_none (Nat.le_of_not_lt hq'), Option.map_none]

/-- What a verdict adds to the global counts. -/
theorem addVerdict_eq (c : Counters) (v : Verdict) :
    c.addVerdict v = { c with
      frames := c.frames + 1
      passed := c.passed + if v = .pass then 1 else 0
      dropped := c.dropped + if v = .drop then 1 else 0
      redirected := c.redirected + if v.queue?.isSome then 1 else 0
      queues := (c.addVerdict v).queues } := by
  cases v with
  | pass => simp [addVerdict, Verdict.queue?]
  | drop => simp [addVerdict, Verdict.queue?]
  | redirect q =>
    rw [addVerdict, modifyQueue_eq]
    simp [Verdict.queue?]

/-- What a redirect without a consumer adds to the counts. -/
theorem addFallback_eq (c : Counters) (q : UInt32) :
    c.addFallback q =
      { c with fallbacks := c.fallbacks + 1, queues := (c.addFallback q).queues } := by
  rw [addFallback, modifyQueue_eq]

theorem queue?_addFallback (c : Counters) (q q' : UInt32) :
    (c.addFallback q).queue? q' = (c.queue? q').map fun k =>
      if q = q' then { k with missingTarget := k.missingTarget + 1 } else k := by
  rw [addFallback, queue?_modifyQueue]
  rfl

end IngressGate.Counters
