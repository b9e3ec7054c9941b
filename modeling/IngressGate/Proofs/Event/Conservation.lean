import IngressGate.Event.Channel
import IngressGate.Proofs.Run
/-!
# The event channel loses nothing silently

A channel is used in any order by those who emit events, by those who receive records, and by those
who set the threshold; at some point its receiver may be gone. Whatever the order, the records that
were received and those that are still queued are the ones that were accepted, in order; every other
event that was enabled has been counted as lost, and the counts that were taken out and the one that
is left add up to these.
-/
namespace IngressGate.Channel

/-- A use of a channel. Its clock goes its own way. -/
inductive Use
  | setThreshold (threshold : Option Level)
  | tick (now : UInt64)
  | emit (e : Event)
  | receive
  | takeLost
  | close

/-- The channel after a use. -/
def next (c : Channel) : Use → Channel
  | .setThreshold threshold => c.setThreshold threshold
  | .tick now => { c with clock := now }
  | .emit e => (c.emit e).2
  | .receive => c.receive.2
  | .takeLost => c.takeLost.2
  | .close => c.close

/-! ## What one use does -/

/-- An enabled event is emitted. -/
def emits : Channel × Use → Bool
  | (c, .emit e) => c.isEnabled e.level
  | _ => false

/-- The record of an event that is enabled, and finds a receiver and room in the queue. -/
def accepted : Channel × Use → List Event.Record
  | (c, .emit e) =>
    if c.isEnabled e.level ∧ c.isOpen ∧ c.queue.length < c.capacity then
      [(e.withTimestamp c.clock).encode]
    else []
  | _ => []

/-- An enabled event is emitted and not accepted. -/
def isLoss (m : Channel × Use) : Bool := emits m && (accepted m).isEmpty

/-- The record that is received, if there is one. -/
def received : Channel × Use → List Event.Record
  | (c, .receive) => c.receive.1.toList
  | _ => []

/-- The count of lost events that is taken out. -/
def taken : Channel × Use → Nat
  | (c, .takeLost) => c.takeLost.1.toNat
  | _ => 0

/-- What becomes of an event: it is queued, or counted as lost, or nothing at all. -/
theorem emit_eq (c : Channel) (e : Event) :
    c.emit e =
      if c.isEnabled e.level then
        if c.isOpen ∧ c.queue.length < c.capacity then
          (true, { c with queue := c.queue ++ [(e.withTimestamp c.clock).encode] })
        else (false, { c with lost := c.lost + 1 })
      else (false, c) := by
  cases henabled : c.isEnabled e.level with
  | false => simp [emit, henabled]
  | true =>
    by_cases hroom : c.isOpen ∧ c.queue.length < c.capacity
    · simp [emit, henabled, hasRoom, hroom]
    · have hnoRoom : c.hasRoom = false := by simpa [hasRoom] using hroom
      simp [emit, henabled, hnoRoom, hroom]

theorem accepted_emit (c : Channel) (e : Event) :
    accepted (c, .emit e) =
      if c.isEnabled e.level then
        if c.isOpen ∧ c.queue.length < c.capacity then [(e.withTimestamp c.clock).encode] else []
      else [] := by
  rw [accepted]
  split_ifs <;> simp_all

/-- An enabled event is accepted or lost. -/
theorem toNat_emits (m : Channel × Use) :
    (emits m).toNat = (accepted m).length + (isLoss m).toNat := by
  obtain ⟨c, u⟩ := m
  cases u with
  | emit e =>
    rw [isLoss, emits, accepted_emit]
    split_ifs with henabled hroom <;> simp [henabled]
  | setThreshold | tick | receive | takeLost | close => rfl

theorem answer_iff (c : Channel) (e : Event) :
    (c.emit e).1 = true ↔ c.isEnabled e.level ∧ c.isOpen ∧ c.queue.length < c.capacity := by
  rw [emit_eq]
  split_ifs with henabled hroom <;> simp_all

/-- What is queued and what is accepted is received or queued, in order. -/
theorem queue_next (c : Channel) (u : Use) :
    c.queue ++ accepted (c, u) = received (c, u) ++ (c.next u).queue := by
  cases u with
  | emit e =>
    show c.queue ++ accepted (c, .emit e) = (c.emit e).2.queue
    rw [emit_eq, accepted_emit]
    split_ifs <;> simp
  | receive =>
    show c.queue ++ [] = c.receive.1.toList ++ c.receive.2.queue
    rw [receive, List.append_nil]
    split
    · next hempty => simp [hempty]
    · next record queue hqueue => split <;> simp [hqueue]
  | setThreshold | tick | takeLost | close => exact List.append_nil _

/-- What is counted as lost is taken out or still counted. -/
theorem lost_next (c : Channel) (u : Use) (h : c.lost.toNat + (isLoss (c, u)).toNat < 2 ^ 64) :
    c.lost.toNat + (isLoss (c, u)).toNat = taken (c, u) + (c.next u).lost.toNat := by
  cases u with
  | emit e =>
    show c.lost.toNat + (isLoss (c, .emit e)).toNat = 0 + (c.emit e).2.lost.toNat
    rw [isLoss, emits, accepted_emit] at h ⊢
    rw [emit_eq]
    split_ifs at h ⊢ with henabled hroom
    · simp
    · -- The one case in which the count moves, and it does not overflow.
      have hone : (c.lost + 1).toNat = c.lost.toNat + 1 := by
        rw [UInt64.toNat_add, UInt64.toNat_one, Nat.mod_eq_of_lt]
        simpa [henabled] using h
      simp [henabled, hone]
    · simp [henabled]
  | receive =>
    show c.lost.toNat = 0 + c.receive.2.lost.toNat
    rw [receive, Nat.zero_add]
    split
    · rfl
    · split <;> rfl
  | setThreshold | tick | close => simp [isLoss, emits, taken, next, setThreshold, Channel.close]
  | takeLost => rfl

/-! ## What a use leaves as it was -/

theorem frame_emit (c : Channel) (e : Event) :
    (c.emit e).2.capacity = c.capacity ∧ (c.emit e).2.threshold = c.threshold ∧
      (c.emit e).2.isOpen = c.isOpen := by
  rw [emit_eq]
  split_ifs <;> exact ⟨rfl, rfl, rfl⟩

theorem frame_receive (c : Channel) :
    c.receive.2.capacity = c.capacity ∧ c.receive.2.threshold = c.threshold ∧
      c.receive.2.isOpen = c.isOpen := by
  rw [receive]
  split
  · exact ⟨rfl, rfl, rfl⟩
  · split <;> exact ⟨rfl, rfl, rfl⟩

theorem capacity_next (c : Channel) (u : Use) : (c.next u).capacity = c.capacity := by
  cases u with
  | emit e => exact (c.frame_emit e).1
  | receive => exact c.frame_receive.1
  | setThreshold | tick | takeLost | close => rfl

/-- The threshold after a use. -/
def Use.threshold (old : Option Level) : Use → Option Level
  | setThreshold threshold => threshold
  | _ => old

theorem threshold_next (c : Channel) (u : Use) :
    (c.next u).threshold = u.threshold c.threshold := by
  cases u with
  | emit e => exact (c.frame_emit e).2.1
  | receive => exact c.frame_receive.2.1
  | setThreshold | tick | takeLost | close => rfl

theorem isOpen_next (c : Channel) (u : Use) :
    (c.next u).isOpen = true ↔ c.isOpen = true ∧ u ≠ .close := by
  cases u with
  | emit e => simp [next, (c.frame_emit e).2.2]
  | receive => simp [next, c.frame_receive.2.2]
  | setThreshold | tick | takeLost => simp [next, Channel.setThreshold, Channel.takeLost]
  | close => simp [next, Channel.close]

theorem length_queue_next {c : Channel} (h : c.queue.length ≤ c.capacity) (u : Use) :
    (c.next u).queue.length ≤ (c.next u).capacity := by
  rw [c.capacity_next u]
  cases u with
  | emit e =>
    show (c.emit e).2.queue.length ≤ c.capacity
    rw [emit_eq]
    split_ifs with henabled hroom
    · simp only [List.length_append, List.length_singleton]
      omega
    · exact h
    · exact h
  | receive =>
    show c.receive.2.queue.length ≤ c.capacity
    rw [receive]
    split
    · exact h
    · next record queue hqueue =>
      rw [hqueue, List.length_cons] at h
      split
      · exact Nat.le_of_succ_le h
      · simpa [hqueue] using h
  | setThreshold | tick | takeLost | close => exact h

theorem queue_next_of_closed {c : Channel} (h : c.isOpen = false) (u : Use) :
    (c.next u).queue = c.queue := by
  cases u with
  | emit e =>
    show (c.emit e).2.queue = c.queue
    rw [emit_eq]
    split_ifs with henabled hroom
    · rw [h] at hroom
      cases hroom.1
    · rfl
    · rfl
  | receive =>
    show c.receive.2.queue = c.queue
    rw [receive]
    split
    · rfl
    · rw [if_neg (by simp [h])]
  | setThreshold | tick | takeLost | close => rfl

/-! ## Runs -/

variable (capacity : Nat) (us : List Use)

/-- A new channel after some uses. -/
def used : Channel := Run.after next (ofCapacity capacity) us

/-- The uses of a new channel, each with the channel that it finds. -/
def moments : List (Channel × Use) := Run.moments next (ofCapacity capacity) us

/-- A new channel of some capacity is faithful in a run. -/
structure Faithful : Prop where
  /-- The queue is bounded. -/
  length_le : (used capacity us).queue.length ≤ capacity
  /-- What is received or queued is what was accepted. -/
  conserved : (moments capacity us).flatMap received ++ (used capacity us).queue =
    (moments capacity us).flatMap accepted
  /-- One more event is answered by whether it is accepted. -/
  answer_iff : ∀ e, ((used capacity us).emit e).1 = true ↔
    (used capacity us).isEnabled e.level ∧ (used capacity us).isOpen ∧
      (used capacity us).queue.length < capacity
  /-- All enabled events are accounted for. -/
  balanced : (moments capacity us).countP isLoss < 2 ^ 64 →
    (moments capacity us).countP emits =
      ((moments capacity us).flatMap received).length + (used capacity us).queue.length +
        (used capacity us).lost.toNat + ((moments capacity us).map taken).sum
  capacity_eq : (used capacity us).capacity = capacity
  /-- The threshold is the one that was set last. -/
  threshold_eq : (used capacity us).threshold = us.foldl Use.threshold none
  /-- The receiver is there until it is dropped. -/
  isOpen_iff : (used capacity us).isOpen = true ↔ .close ∉ us
  /-- What is queued when the receiver is dropped stays there. -/
  closed : .close ∈ us → ∀ newer, (used capacity (us ++ newer)).queue = (used capacity us).queue

variable {capacity us}

theorem isOpen_after (c : Channel) (us : List Use) :
    (Run.after next c us).isOpen = true ↔ c.isOpen = true ∧ .close ∉ us := by
  induction us generalizing c with
  | nil => simp
  | cons u us ih =>
    rw [Run.after_cons, ih, isOpen_next, List.mem_cons, not_or, and_assoc, ne_comm]

theorem capacity_used : (used capacity us).capacity = capacity :=
  Run.invariant_after (fun c : Channel => c.capacity = capacity)
    (fun c u h => (c.capacity_next u).trans h) rfl us

theorem length_queue_used : (used capacity us).queue.length ≤ capacity := by
  have hbounded : (used capacity us).queue.length ≤ (used capacity us).capacity :=
    Run.invariant_after (fun c : Channel => c.queue.length ≤ c.capacity)
      (fun _ u h => length_queue_next h u) (Nat.zero_le _) us
  rwa [capacity_used] at hbounded

theorem queue_after_of_closed {c : Channel} (h : c.isOpen = false) (us : List Use) :
    (Run.after next c us).queue = c.queue := by
  have hkeep : ∀ (c' : Channel) (u : Use), c'.isOpen = false ∧ c'.queue = c.queue →
      (c'.next u).isOpen = false ∧ (c'.next u).queue = c.queue := by
    intro c' u hc
    refine ⟨?_, (queue_next_of_closed hc.1 u).trans hc.2⟩
    have hopen := mt (c'.isOpen_next u).mp (by simp [hc.1])
    simpa using hopen
  exact (Run.invariant_after (fun c' : Channel => c'.isOpen = false ∧ c'.queue = c.queue) hkeep
    ⟨h, rfl⟩ us).2

variable (capacity us) in
theorem conserved_used :
    (moments capacity us).flatMap received ++ (used capacity us).queue =
      (moments capacity us).flatMap accepted :=
  (Run.conserved (fun _ => True) queue (fun _ _ _ => trivial) (fun c u _ => c.queue_next u) trivial
    us).symm

theorem countP_emits (ms : List (Channel × Use)) :
    ms.countP emits = (ms.flatMap accepted).length + ms.countP isLoss := by
  induction ms with
  | nil => rfl
  | cons m ms ih =>
    have hm := toNat_emits m
    have hcount (p : Channel × Use → Bool) : (m :: ms).countP p = ms.countP p + (p m).toNat := by
      rw [List.countP_cons]
      cases p m <;> rfl
    rw [hcount, hcount, List.flatMap_cons, List.length_append]
    omega

theorem balanced_used (h : (moments capacity us).countP isLoss < 2 ^ 64) :
    (moments capacity us).countP emits =
      ((moments capacity us).flatMap received).length + (used capacity us).queue.length +
        (used capacity us).lost.toNat + ((moments capacity us).map taken).sum := by
  -- The count of a new channel is zero, and only losses raise it.
  have hlosses : (ofCapacity capacity).lost.toNat +
      ((moments capacity us).map fun m => (isLoss m).toNat).sum < 2 ^ 64 := by
    rw [Run.sum_toNat]
    simpa [ofCapacity] using h
  have hlost : 0 + ((moments capacity us).map fun m => (isLoss m).toNat).sum =
      ((moments capacity us).map taken).sum + (used capacity us).lost.toNat :=
    Run.balanced (fun c : Channel => c.lost.toNat) lost_next hlosses
  have hqueued := congrArg List.length (conserved_used capacity us)
  rw [Run.sum_toNat] at hlost
  rw [List.length_append] at hqueued
  rw [countP_emits]
  omega

/-- **Nothing is lost silently and nothing is reordered**, in any run of a channel of any
capacity. -/
theorem faithful (capacity : Nat) (us : List Use) : Faithful capacity us where
  length_le := length_queue_used
  conserved := conserved_used capacity us
  answer_iff e := by rw [Channel.answer_iff, capacity_used]
  balanced hlost := balanced_used hlost
  capacity_eq := capacity_used
  threshold_eq := Run.view_after threshold threshold_next (ofCapacity capacity) us
  isOpen_iff := by
    rw [used, isOpen_after]
    simp [ofCapacity]
  closed h newer := by
    have hopen : ¬ (used capacity us).isOpen = true := by
      rw [used, isOpen_after]
      exact fun hiff => hiff.2 h
    rw [used, Run.after_append]
    exact queue_after_of_closed (Bool.not_eq_true _ ▸ hopen) newer

end IngressGate.Channel
