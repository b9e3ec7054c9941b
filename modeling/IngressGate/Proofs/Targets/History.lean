import Mathlib.Data.Nat.Count
import Mathlib.Data.Set.Card
import IngressGate.Proofs.Counters
import IngressGate.Proofs.Run
import IngressGate.Proofs.Targets
/-!
# Histories of the table of consumers

A queue has the consumer that was last registered for it, unless it was removed since (`HeldBy`).
Whatever was done with the table before, and under whatever numbers of queues, that is what the
table answers and what a redirect comes to (`follows_history`).
-/
namespace IngressGate.Targets

/-- A use of the table. -/
inductive Use (α : Type)
  | set (queue : UInt32) (target : α)
  | clear (queue : UInt32)

namespace Use
variable {α : Type}

/-- The queue that a use is about. -/
def queue : Use α → UInt32
  | set queue _ => queue
  | clear queue => queue

/-- The consumer that a use leaves the queue with. -/
def target? : Use α → Option α
  | set _ target => some target
  | clear _ => none

end Use

variable {α : Type}

/-! ## One use -/

/-- The answer to a use, and the table after it. -/
def perform (t : Targets α) : Use α → Except TargetError (Option α × Targets α)
  | .set queue target => (t.set queue target).map (none, ·)
  | .clear queue => t.clear queue

/-- The table after a use. -/
def next (t : Targets α) (u : Use α) : Targets α :=
  match t.perform u with
  | .ok (_, t') => t'
  | .error _ => t

theorem perform_eq_error_iff {t : Targets α} {u : Use α} {e : TargetError} :
    t.perform u = .error e ↔ queueCount ≤ u.queue.toNat ∧ e = .outOfRange u.queue := by
  cases u with
  | set queue target =>
    by_cases h : queue.toNat < queueCount
    · simp [perform, set, Use.queue, h, Except.map]
    · simp [perform, set, Use.queue, h, Except.map, Nat.le_of_not_lt h, eq_comm]
  | clear queue =>
    by_cases h : queue.toNat < queueCount
    · simp [perform, clear, Use.queue, h]
    · simp [perform, clear, Use.queue, h, Nat.le_of_not_lt h, eq_comm]

/-- A use that is refused changes nothing. -/
theorem next_of_error {t : Targets α} {u : Use α} {e : TargetError} (h : t.perform u = .error e) :
    t.next u = t := by
  rw [next, h]

/-- Any other use changes the slot of its queue. -/
theorem next_eq (t : Targets α) (u : Use α) :
    t.next u = if h : u.queue.toNat < queueCount then ⟨t.slots.set u.queue.toNat u.target?⟩
      else t := by
  by_cases h : u.queue.toNat < queueCount
  · rw [dif_pos h]
    cases u with
    | set queue target =>
      have hq : queue.toNat < queueCount := h
      rw [next, perform, set, dif_pos hq]
      rfl
    | clear queue =>
      have hq : queue.toNat < queueCount := h
      rw [next, perform, clear, dif_pos hq]
      rfl
  · rw [dif_neg h]
    exact next_of_error (perform_eq_error_iff.mpr ⟨Nat.le_of_not_lt h, rfl⟩)

theorem get?_next (t : Targets α) (u : Use α) (q : UInt32) :
    (t.next u).get? q =
      if u.queue = q ∧ q.toNat < queueCount then u.target? else t.get? q := by
  rw [next_eq]
  by_cases h : u.queue.toNat < queueCount
  · rw [dif_pos h, get?_setSlot]
    by_cases hq : u.queue = q
    · rw [if_pos hq, if_pos ⟨hq, hq ▸ h⟩]
    · rw [if_neg hq, if_neg fun hand => hq hand.1]
  · rw [dif_neg h, if_neg]
    rintro ⟨rfl, hq⟩
    exact h hq

theorem clear_eq (t : Targets α) (q : UInt32) :
    (t.clear q).map Prod.fst =
      if q.toNat < queueCount then .ok (t.get? q) else .error (.outOfRange q) := by
  rw [clear, get?_eq]
  split
  · next h =>
    rw [Vector.getElem?_eq_getElem h]
    rfl
  · rfl

/-! ## Histories -/

/-- The table after some uses, of which the first found it without consumers. -/
def after (us : List (Use α)) : Targets α := Run.after next empty us

/-- The consumer was registered for the queue, which exists, and no later use was about that
queue. -/
def HeldBy (us : List (Use α)) (queue : UInt32) (target : α) : Prop :=
  queue.toNat < queueCount ∧ Run.Lasts (· = .set queue target) (·.queue = queue) us

theorem after_snoc (us : List (Use α)) (u : Use α) : after (us ++ [u]) = (after us).next u :=
  Run.after_append next empty us [u]

theorem get?_empty (q : UInt32) : (empty : Targets α).get? q = none := by
  rw [get?_eq, empty, Vector.getElem?_replicate]
  split_ifs <;> rfl

theorem target?_eq_some_iff {u : Use α} {target : α} :
    u.target? = some target ↔ u = .set u.queue target := by
  cases u <;> simp [Use.target?, Use.queue]

/-- The consumer of a queue is the one that its history tells. -/
theorem get?_after {us : List (Use α)} {q : UInt32} {target : α} :
    (after us).get? q = some target ↔ HeldBy us q target := by
  by_cases hq : q.toNat < queueCount
  · rw [HeldBy, and_iff_right hq]
    -- The last use decides, so uses are taken off at the end.
    induction us using List.reverseRecOn with
    | nil => exact iff_of_false (by simp [after, get?_empty]) Run.not_lasts_nil
    | append_singleton us u ih =>
      rw [after_snoc, get?_next, Run.lasts_snoc]
      by_cases hu : u.queue = q
      · subst hu
        rw [if_pos ⟨rfl, hq⟩, target?_eq_some_iff]
        simp
      · have hset : u ≠ .set q target := by
          rintro rfl
          exact hu rfl
        rw [if_neg fun hand => hu hand.1, ih]
        simp [hu, hset]
  · rw [get?_of_le (Nat.le_of_not_lt hq)]
    exact iff_of_false (by simp) fun h => hq h.1

theorem get?_after_eq_none_iff {us : List (Use α)} {q : UInt32} :
    (after us).get? q = none ↔ ∀ target, ¬ HeldBy us q target := by
  simp only [Option.eq_none_iff_forall_ne_some, ne_eq, get?_after]

/-! ## The queues that have a consumer -/

theorem countP_toList_slots (t : Targets α) :
    t.slots.toList.countP (·.isSome) =
      Nat.count (fun i => (t.slots[i]?).join.isSome) queueCount := by
  have hlist : t.slots.toList = (List.range queueCount).map fun i => (t.slots[i]?).join := by
    refine List.ext_getElem (by simp) fun i hi _ => ?_
    rw [Vector.length_toList] at hi
    simp [hi]
  rw [hlist, List.countP_map, Nat.count]
  simp [Function.comp_def]

/-- The table counts the queues that have a consumer. -/
theorem registered_eq_ncard (t : Targets α) :
    t.registered = {q : UInt32 | (t.get? q).isSome}.ncard := by
  -- Their numbers are those of the slots that are taken.
  have himage : UInt32.toNat '' {q | (t.get? q).isSome} =
      ↑{i ∈ Finset.range queueCount | (t.slots[i]?).join.isSome} := by
    ext i
    simp only [Set.mem_image, Set.mem_ofPred_eq, Finset.coe_filter, Finset.mem_range, get?_eq]
    constructor
    · rintro ⟨q, hq, rfl⟩
      refine ⟨?_, hq⟩
      by_contra hlt
      rw [Vector.getElem?_eq_none (Nat.le_of_not_lt hlt)] at hq
      cases hq
    · rintro ⟨hi, htaken⟩
      have hval : (UInt32.ofNat i).toNat = i :=
        UInt32.toNat_ofNat_of_lt' (Nat.lt_trans hi (by decide))
      exact ⟨.ofNat i, by rwa [hval], hval⟩
  rw [registered, countP_toList_slots, Nat.count_eq_card_filter_range, ← Set.ncard_coe_finset,
    ← himage, Set.ncard_image_of_injective _ fun _ _ => UInt32.toNat.inj]

/-! ## What a redirect comes to -/

/-- A redirect to a queue that came to a delivery is counted: once among all, and once with the
queue, if there is one. -/
structure CountedFallback (q : UInt32) (c c' : Counters) : Prop where
  globals_eq : c' = { c with fallbacks := c.fallbacks + 1, queues := c'.queues }
  queue?_eq : q.toNat < queueCount → ∃ k, c.queue? q = some k ∧
    c'.queue? q = some { k with missingTarget := k.missingTarget + 1 }
  other_eq : ∀ q' ≠ q, c'.queue? q' = c.queue? q'

theorem countedFallback_addFallback (q : UInt32) (c : Counters) :
    CountedFallback q c (c.addFallback q) where
  globals_eq := c.addFallback_eq q
  queue?_eq hq := by
    obtain ⟨k, hk⟩ := Option.isSome_iff_exists.mp ((c.isSome_queue? q).mpr hq)
    refine ⟨k, hk, ?_⟩
    rw [Counters.queue?_addFallback, hk, Option.map_some, if_pos rfl]
  other_eq q' hq' := by
    simp [Counters.queue?_addFallback, Ne.symm hq']

/-- What the table answers, and what a redirect comes to, as the history `us` has it. -/
structure FollowsHistory (us : List (Use α)) : Prop where
  /-- A use is refused exactly if there is no such queue, -/
  refused_iff : ∀ u e, (after us).perform u = .error e ↔
    queueCount ≤ u.queue.toNat ∧ e = .outOfRange u.queue
  /-- and then changes nothing. -/
  refused_unchanged : ∀ u, queueCount ≤ u.queue.toNat → after (us ++ [u]) = after us
  /-- A removal answers with the consumer that the queue has had. -/
  cleared_iff : ∀ q target,
    ((after us).clear q).map Prod.fst = .ok (some target) ↔ HeldBy us q target
  clearedNone_iff : ∀ q, ((after us).clear q).map Prod.fst = .ok none ↔
    q.toNat < queueCount ∧ ∀ target, ¬ HeldBy us q target
  /-- A redirect is a push to the consumer of the queue, and a delivery if it has none. -/
  push_iff : ∀ q q' target, (after us).dispatch (.redirect q) = .push q' target ↔
    q' = q ∧ HeldBy us q target
  deliver_iff : ∀ q, (∃ reason, (after us).dispatch (.redirect q) = .deliver reason) ↔
    ∀ target, ¬ HeldBy us q target
  /-- Only the delivery is counted. -/
  count_push : ∀ q target c, HeldBy us q target →
    ((after us).dispatch (.redirect q)).count c = c
  count_deliver : ∀ q c, (∀ target, ¬ HeldBy us q target) →
    CountedFallback q c (((after us).dispatch (.redirect q)).count c)
  /-- A use that is about another queue does not matter. -/
  other_unchanged : ∀ u q, u.queue ≠ q →
    (after (us ++ [u])).slots[q.toNat]? = (after us).slots[q.toNat]?
  /-- The table counts the queues whose redirects are pushes. -/
  registered_eq : (after us).registered =
    {q : UInt32 | ∃ target, (after us).dispatch (.redirect q) = .push q target}.ncard

/-- **A redirect follows the whole history of its queue.** -/
theorem follows_history (us : List (Use α)) : FollowsHistory us where
  refused_iff _ _ := perform_eq_error_iff
  refused_unchanged u hu := by
    rw [after_snoc]
    exact next_of_error (perform_eq_error_iff.mpr ⟨hu, rfl⟩)
  cleared_iff q target := by
    rw [clear_eq, ← get?_after]
    by_cases hq : q.toNat < queueCount
    · simp [hq]
    · simp [hq, get?_of_le (Nat.le_of_not_lt hq)]
  clearedNone_iff q := by
    rw [clear_eq, ← get?_after_eq_none_iff]
    by_cases hq : q.toNat < queueCount <;> simp [hq]
  push_iff q q' target := by
    rw [dispatch_eq_push_iff, get_eq_ok_iff, get?_after, Verdict.redirect.injEq]
    exact ⟨fun ⟨hq, h⟩ => ⟨hq.symm, hq ▸ h⟩, fun ⟨hq, h⟩ => ⟨hq.symm, hq ▸ h⟩⟩
  deliver_iff q := by
    rw [← get?_after_eq_none_iff, dispatch_redirect]
    cases (after us).get? q <;> simp
  count_push q target c h := by
    rw [dispatch_redirect, get?_after.mpr h]
    rfl
  count_deliver q c h := by
    have hdeliver : ((after us).dispatch (.redirect q)).fallback? = some q := by
      rw [fallback?_dispatch, Verdict.queue?, Option.filter_some_pos]
      rw [get?_after_eq_none_iff.mpr h]
      rfl
    rw [Disposition.count_eq, hdeliver]
    exact countedFallback_addFallback q c
  other_unchanged u q hu := by
    rw [after_snoc, next_eq]
    split
    · rw [Vector.getElem?_set_ne]
      exact fun h => hu (UInt32.toNat.inj h)
    · rfl
  registered_eq := by
    rw [registered_eq_ncard]
    simp only [dispatch_eq_push_iff, get_eq_ok_iff, true_and, Option.isSome_iff_exists]

end IngressGate.Targets
