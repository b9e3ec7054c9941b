import IngressGate.Proofs.Gate.Rings
import IngressGate.Proofs.Run
import IngressGate.Proofs.Targets
/-!
# Redirected frames

A frame that is redirected goes to the ring of the consumer that is registered for its queue at that
moment. Whatever happens on a gate, one ring sees of it only pushes, and what its consumer takes; so
the frames that were taken from it and those that it holds are the ones that were pushed to it while
it had room, in order, and it has counted all others.
-/
namespace IngressGate

namespace Gate

/-! ## What an operation does to one ring -/

/-- The frame that is answered to be pushed to a ring. -/
def pushedTo (h : RingHandle) : Gate × Operation → Option (List UInt8)
  | (g, .pass (.process frame queue)) =>
    match (g.process frame queue).answer with
    | .push _ h' => if h' = h then some frame else none
    | _ => none
  | _ => none

/-- What an operation does to a ring, if it does something to it. -/
def ringUse (h : RingHandle) : Gate × Operation → Option Ring.Use
  | (g, .pass (.process frame queue)) => (pushedTo h (g, .pass (.process frame queue))).map .push
  | (_, .take (.receiveFrames h' count)) => if h' = h then some (.receive count) else none
  | (_, .take (.drainRing h')) => if h' = h then some .drain else none
  | (_, .take (.closeRing h')) => if h' = h then some .close else none
  | _ => none

variable {g : Gate} {h : RingHandle} {r : Ring}

theorem rings_carryOut (g : Gate) (frame : List UInt8) (d : Disposition RingHandle) :
    (g.carryOut frame d).1.rings =
      match d with
      | .push _ h => (g.rings.push h frame).2
      | _ => g.rings := by
  cases d <;> rfl

theorem rings_process (g : Gate) (frame : List UInt8) (queue : UInt32) :
    (g.process frame queue).gate.rings =
      match (g.process frame queue).answer with
      | .push _ h => (g.rings.push h frame).2
      | _ => g.rings :=
  rings_carryOut _ frame _

/-- A change leaves a ring as it was. -/
theorem get?_change (hr : g.rings.get? h = some r) (c : Change) :
    (g.change c).2.rings.get? h = some r := by
  cases c with
  | insertRule k v =>
    cases hinsert : g.book.insert k v with
    | ok b => simpa [change, insertRule, hinsert] using hr
    | error e => simpa [change, insertRule, hinsert] using hr
  | apply s => rw [change, (sameTraffic_apply s g).rings_eq, hr]
  | openRing queue capacity => exact Rings.get?_openRing_of_some hr queue capacity
  | setTarget queue ring =>
    cases hset : g.targets.set queue ring with
    | ok t => simpa [change, setTarget, hset, Except.map] using hr
    | error e => simpa [change, setTarget, hset, Except.map] using hr
  | clearTarget queue =>
    cases hclear : g.targets.clear queue with
    | ok t => simpa [change, clearTarget, hclear, Except.map] using hr
    | error e => simpa [change, clearTarget, hclear, Except.map] using hr
  | eraseRule | setThreshold | setMode => exact hr

theorem get?_process (hr : g.rings.get? h = some r) (frame : List UInt8) (queue : UInt32) :
    (g.process frame queue).gate.rings.get? h =
      some (match pushedTo h (g, .pass (.process frame queue)) with
        | some frame => (r.push frame).2
        | none => r) := by
  rw [rings_process, pushedTo]
  cases (g.process frame queue).answer with
  | deliver reason => exact hr
  | discard => exact hr
  | push q h' =>
    dsimp only
    split_ifs with hh
    · subst hh
      exact Rings.get?_push_self frame hr
    · exact (Rings.get?_push_of_ne frame hh).trans hr

theorem get?_modifyRing (hr : g.rings.get? h = some r) (h' : RingHandle) (f : Ring → Ring) :
    (g.modifyRing h' f).rings.get? h = some (if h' = h then f r else r) := by
  split_ifs with hh
  · subst hh
    exact Rings.get?_modify_self f hr
  · exact (Rings.get?_modify_of_ne f hh).trans hr

/-- **Every operation leaves a ring as it was, or uses it in one way.** -/
theorem get?_step (hr : g.rings.get? h = some r) (op : Operation) :
    (g.step op).2.rings.get? h =
      some (match ringUse h (g, op) with
        | some u => r.next u
        | none => r) := by
  cases op with
  | change c => exact get?_change hr c
  | pass p =>
    cases p with
    | classify frame queue => exact hr
    | dispatch v => exact hr
    | process frame queue =>
      show (g.process frame queue).gate.rings.get? h = _
      rw [get?_process hr, ringUse]
      cases pushedTo h (g, .pass (.process frame queue)) <;> rfl
  | take i =>
    cases i with
    | receiveFrames h' count =>
      show (g.modifyRing h' _).rings.get? h = _
      rw [get?_modifyRing hr, ringUse]
      split_ifs <;> rfl
    | drainRing h' =>
      show (g.modifyRing h' _).rings.get? h = _
      rw [get?_modifyRing hr, ringUse]
      split_ifs <;> rfl
    | closeRing h' =>
      show (g.modifyRing h' _).rings.get? h = _
      rw [get?_modifyRing hr, ringUse]
      split_ifs <;> rfl
    | observe =>
      cases hevents : g.events with
      | none => simpa [step, take, observe, hevents, ringUse] using hr
      | some c => simpa [step, take, observe, hevents, ringUse] using hr
    | receiveEvent | drainEvents | takeLost | closeEvents => exact hr

/-! ## Who is registered for a queue -/

/-- The consumer of a queue after an operation: it can be set, replaced or cleared. -/
def registers (q : UInt32) (old : Option RingHandle) : Operation → Option RingHandle
  | .change (.setTarget q' h) => if q' = q ∧ q.toNat < queueCount then some h else old
  | .change (.clearTarget q') => if q' = q then none else old
  | _ => old

theorem get?_targets_setTarget (g : Gate) (q q' : UInt32) (h : RingHandle) :
    (g.change (.setTarget q' h)).2.targets.get? q =
      if q' = q ∧ q.toNat < queueCount then some h else g.targets.get? q := by
  by_cases hq : q'.toNat < queueCount
  · have hset : (g.change (.setTarget q' h)).2.targets =
        ⟨g.targets.slots.set q'.toNat (some h)⟩ := by
      simp [change, setTarget, Targets.set, hq, Except.map]
    rw [hset, Targets.get?_setSlot]
    by_cases hqq : q' = q
    · subst hqq
      rw [if_pos rfl, if_pos ⟨rfl, hq⟩]
    · rw [if_neg hqq, if_neg fun hboth => hqq hboth.1]
  · have hset : (g.change (.setTarget q' h)).2.targets = g.targets := by
      simp [change, setTarget, Targets.set, hq, Except.map]
    rw [hset, if_neg]
    rintro ⟨rfl, hlt⟩
    exact hq hlt

theorem get?_targets_clearTarget (g : Gate) (q q' : UInt32) :
    (g.change (.clearTarget q')).2.targets.get? q = if q' = q then none else g.targets.get? q := by
  by_cases hq : q'.toNat < queueCount
  · have hclear : (g.change (.clearTarget q')).2.targets =
        ⟨g.targets.slots.set q'.toNat none⟩ := by
      simp [change, clearTarget, Targets.clear, hq, Except.map]
    rw [hclear, Targets.get?_setSlot]
  · have hclear : (g.change (.clearTarget q')).2.targets = g.targets := by
      simp [change, clearTarget, Targets.clear, hq, Except.map]
    rw [hclear]
    split_ifs with hqq
    · subst hqq
      exact Targets.get?_of_le (Nat.le_of_not_lt hq)
    · rfl

theorem get?_targets_step (g : Gate) (op : Operation) (q : UInt32) :
    (g.step op).2.targets.get? q = registers q (g.targets.get? q) op := by
  cases op with
  | change c =>
    cases c with
    | setTarget q' h => exact g.get?_targets_setTarget q q' h
    | clearTarget q' => exact g.get?_targets_clearTarget q q'
    | insertRule k v =>
      show (g.change (.insertRule k v)).2.targets.get? q = g.targets.get? q
      cases hinsert : g.book.insert k v <;> simp [change, insertRule, hinsert]
    | apply s =>
      show (g.apply s).gate.targets.get? q = g.targets.get? q
      rw [(sameTraffic_apply s g).targets_eq]
    | eraseRule | setThreshold | setMode | openRing => rfl
  | pass p =>
    have htargets := (policy_eq_iff.mp (g.policy_pass p)).2.2.1
    exact congrArg (Targets.get? · q) htargets
  | take i =>
    have htargets := (policy_eq_iff.mp (g.policy_take i)).2.2.1
    exact congrArg (Targets.get? · q) htargets

/-! ## What becomes of a frame -/

theorem answer_process (g : Gate) (frame : List UInt8) (queue : UInt32) :
    (g.process frame queue).answer = g.targets.dispatch (g.classify frame queue).1 := rfl

/-- What becomes of a frame is told by its verdict and by who is registered for the queue. -/
structure Settles (g : Gate) (registered : UInt32 → Option RingHandle) (frame : List UInt8)
    (queue : UInt32) : Prop where
  push_iff : ∀ q h, (g.process frame queue).answer = .push q h ↔
    (g.classify frame queue).1 = .redirect q ∧ registered q = some h
  discard_iff : (g.process frame queue).answer = .discard ↔ (g.classify frame queue).1 = .drop
  deliver_iff : (∃ reason, (g.process frame queue).answer = .deliver reason) ↔
    (g.classify frame queue).1 ≠ .drop ∧
      ∀ q h, ¬ ((g.classify frame queue).1 = .redirect q ∧ registered q = some h)
  /-- A frame that is not pushed is in no ring. -/
  rings_eq : (∀ q h, (g.process frame queue).answer ≠ .push q h) →
    (g.process frame queue).gate.rings = g.rings

theorem settles (g : Gate) (frame : List UInt8) (queue : UInt32) :
    g.Settles g.targets.get? frame queue := by
  have hpush : ∀ q h, (g.process frame queue).answer = .push q h ↔
      (g.classify frame queue).1 = .redirect q ∧ g.targets.get? q = some h := by
    intro q h
    rw [answer_process, Targets.dispatch_eq_push_iff, Targets.get_eq_ok_iff]
  have hdiscard : (g.process frame queue).answer = .discard ↔
      (g.classify frame queue).1 = .drop := by
    rw [answer_process, Targets.dispatch_eq_discard_iff]
  refine ⟨hpush, hdiscard, ?_, ?_⟩
  · simp only [ne_eq, ← hpush, ← hdiscard]
    cases (g.process frame queue).answer <;> simp
  · intro hnone
    rw [rings_process]
    split
    · next q h heq => exact absurd heq (hnone q h)
    · rfl

/-! ## Runs -/

/-- The gate after some operations. -/
def after (g : Gate) (ops : List Operation) : Gate := Run.after (fun g op => (g.step op).2) g ops

/-- The operations of a run, each with the gate that it finds. -/
def moments (g : Gate) (ops : List Operation) : List (Gate × Operation) :=
  Run.moments (fun g op => (g.step op).2) g ops

/-- There is such a ring, it is open, and it is not full. -/
def hasRoom (g : Gate) (h : RingHandle) : Bool :=
  (g.rings.get? h).any fun r => r.isOpen && r.frames.length < r.capacity

/-- The frame that is pushed to a ring and finds room there. -/
def acceptedBy (h : RingHandle) (m : Gate × Operation) : List (List UInt8) :=
  if m.1.hasRoom h then (pushedTo h m).toList else []

/-- A frame is pushed to a ring and does not find room there. -/
def refusedBy (h : RingHandle) (m : Gate × Operation) : Bool :=
  (pushedTo h m).isSome && !m.1.hasRoom h

/-- The frames that are taken from a ring. -/
def receivedFrom (h : RingHandle) : Gate × Operation → List (List UInt8)
  | (g, .take (.receiveFrames h' count)) =>
    if h' = h then (g.takeFrames h fun r => r.receive count).1 else []
  | (g, .take (.drainRing h')) => if h' = h then (g.takeFrames h Ring.drain).1 else []
  | _ => []

/-! ## What one ring sees of an operation -/

theorem pushedTo_eq (h : RingHandle) (m : Gate × Operation) :
    pushedTo h m = (ringUse h m).bind Ring.Use.frame? := by
  obtain ⟨g, op⟩ := m
  cases op with
  | change c => rfl
  | pass p =>
    cases p with
    | process frame queue =>
      rw [ringUse]
      cases pushedTo h (g, .pass (.process frame queue)) <;> rfl
    | classify | dispatch => rfl
  | take i =>
    cases i with
    | receiveFrames h' count =>
      rw [ringUse]
      split_ifs <;> rfl
    | drainRing h' =>
      rw [ringUse]
      split_ifs <;> rfl
    | closeRing h' =>
      rw [ringUse]
      split_ifs <;> rfl
    | receiveEvent | drainEvents | takeLost | observe | closeEvents => rfl

theorem hasRoom_eq (hr : g.rings.get? h = some r) : g.hasRoom h = r.hasRoom := by
  simp [hasRoom, hr, Ring.hasRoom]

theorem acceptedBy_eq (hr : g.rings.get? h = some r) (op : Operation) :
    acceptedBy h (g, op) = (ringUse h (g, op)).elim [] r.accepted := by
  rw [acceptedBy, pushedTo_eq, hasRoom_eq hr]
  cases ringUse h (g, op) with
  | none => simp
  | some u => cases u <;> simp [Ring.Use.frame?, Ring.accepted]

theorem refusedBy_eq (hr : g.rings.get? h = some r) (op : Operation) :
    refusedBy h (g, op) = (ringUse h (g, op)).elim false r.refuses := by
  rw [refusedBy, pushedTo_eq, hasRoom_eq hr]
  cases ringUse h (g, op) with
  | none => rfl
  | some u => cases u <;> simp [Ring.Use.frame?, Ring.refuses]

theorem receivedFrom_eq (hr : g.rings.get? h = some r) (op : Operation) :
    receivedFrom h (g, op) = (ringUse h (g, op)).elim [] r.received := by
  cases op with
  | change c => rfl
  | pass p =>
    cases p with
    | process frame queue =>
      rw [ringUse]
      cases pushedTo h (g, .pass (.process frame queue)) <;> rfl
    | classify | dispatch => rfl
  | take i =>
    cases i with
    | receiveFrames h' count =>
      rw [ringUse, receivedFrom, takeFrames, hr]
      split_ifs <;> rfl
    | drainRing h' =>
      rw [ringUse, receivedFrom, takeFrames, hr]
      split_ifs <;> rfl
    | closeRing h' =>
      rw [ringUse]
      split_ifs <;> rfl
    | receiveEvent | drainEvents | takeLost | observe | closeEvents => rfl

/-! ## The run of one ring -/

/-- A ring conveys the frames that are pushed to it in a run: what is known about the ring `r`, of a
given capacity, after the run. -/
structure Conveys (g : Gate) (h : RingHandle) (capacity : Nat) (ops : List Operation) (r : Ring) :
    Prop where
  ring_eq : (g.after ops).rings.get? h = some r
  capacity_eq : r.capacity = capacity
  length_le : r.frames.length ≤ capacity
  /-- What was taken or is held is what was pushed while there was room. -/
  conserved : (g.moments ops).flatMap (receivedFrom h) ++ r.frames =
    (g.moments ops).flatMap (acceptedBy h)
  /-- All other frames are counted. -/
  overruns_eq : r.overruns = UInt64.ofNat ((g.moments ops).countP (refusedBy h))
  isOpen_iff : r.isOpen = true ↔ .take (.closeRing h) ∉ ops
  /-- What is held when the consumer is gone stays there. -/
  closed : .take (.closeRing h) ∈ ops → ∀ newer, ∃ r',
    (g.after (ops ++ newer)).rings.get? h = some r' ∧ r'.frames = r.frames
  /-- The frame that comes next goes where the history of the targets says. -/
  settles : ∀ frame queue, (g.after ops).Settles
    (fun q => ops.foldl (registers q) (g.targets.get? q)) frame queue

/-- What every use of a ring keeps is kept by every operation. -/
theorem exists_ring_step {P : Ring → Prop} (hkeep : ∀ r u, P r → P (r.next u)) (g : Gate)
    (op : Operation) (hring : ∃ r, g.rings.get? h = some r ∧ P r) :
    ∃ r, (g.step op).2.rings.get? h = some r ∧ P r := by
  obtain ⟨r, hr, hP⟩ := hring
  refine ⟨_, get?_step hr op, ?_⟩
  cases ringUse h (g, op) with
  | none => exact hP
  | some u => exact hkeep r u hP

theorem exists_ring_after {P : Ring → Prop} (hkeep : ∀ r u, P r → P (r.next u))
    (hring : ∃ r, g.rings.get? h = some r ∧ P r) (ops : List Operation) :
    ∃ r, (g.after ops).rings.get? h = some r ∧ P r :=
  Run.invariant_after (fun g : Gate => ∃ r, g.rings.get? h = some r ∧ P r)
    (exists_ring_step hkeep) hring ops

/-- A ring that was opened is there for good. -/
theorem isSome_ring_step (g : Gate) (op : Operation) (hring : (g.rings.get? h).isSome = true) :
    ((g.step op).2.rings.get? h).isSome = true := by
  obtain ⟨r, hr⟩ := Option.isSome_iff_exists.mp hring
  rw [get?_step hr op]
  rfl

theorem conserved_after (hr : g.rings.get? h = some r) (hframes : r.frames = [])
    (ops : List Operation) {r' : Ring} (hr' : (g.after ops).rings.get? h = some r') :
    (g.moments ops).flatMap (receivedFrom h) ++ r'.frames =
      (g.moments ops).flatMap (acceptedBy h) := by
  let frames (g : Gate) : List (List UInt8) := ((g.rings.get? h).map Ring.frames).getD []
  have hstep : ∀ (g : Gate) (op : Operation), (g.rings.get? h).isSome = true →
      frames g ++ acceptedBy h (g, op) = receivedFrom h (g, op) ++ frames (g.step op).2 := by
    intro g op hring
    obtain ⟨r, hr⟩ := Option.isSome_iff_exists.mp hring
    simp only [frames, acceptedBy_eq hr, receivedFrom_eq hr, get?_step hr, hr]
    cases ringUse h (g, op) with
    | none => exact List.append_nil _
    | some u => exact r.frames_next u
  have hrun := Run.conserved (fun g : Gate => (g.rings.get? h).isSome = true) frames
    isSome_ring_step hstep (Option.isSome_of_eq_some hr) ops
  have hstart : frames g = [] := by simp [frames, hr, hframes]
  have hend : frames (g.after ops) = r'.frames := by simp [frames, hr']
  rw [hstart] at hrun
  exact (hend ▸ hrun).symm

theorem overruns_after (hr : g.rings.get? h = some r) (ops : List Operation) {r' : Ring}
    (hr' : (g.after ops).rings.get? h = some r') :
    r'.overruns = r.overruns + UInt64.ofNat ((g.moments ops).countP (refusedBy h)) := by
  let overruns (g : Gate) : UInt64 := ((g.rings.get? h).map Ring.overruns).getD 0
  have hstep : ∀ (g : Gate) (op : Operation), (g.rings.get? h).isSome = true →
      overruns (g.step op).2 = overruns g + if refusedBy h (g, op) then 1 else 0 := by
    intro g op hring
    obtain ⟨r, hr⟩ := Option.isSome_iff_exists.mp hring
    simp only [overruns, refusedBy_eq hr, get?_step hr, hr]
    cases ringUse h (g, op) with
    | none => exact (UInt64.add_zero _).symm
    | some u => exact r.overruns_next u
  have hrun := Run.counted (fun g : Gate => (g.rings.get? h).isSome = true) overruns
    isSome_ring_step hstep (Option.isSome_of_eq_some hr) ops
  have hstart : overruns g = r.overruns := by simp [overruns, hr]
  have hend : overruns (g.after ops) = r'.overruns := by simp [overruns, hr']
  rw [hstart] at hrun
  exact hend ▸ hrun

theorem ringUse_eq_close_iff (h : RingHandle) (g : Gate) (op : Operation) :
    ringUse h (g, op) = some .close ↔ op = .take (.closeRing h) := by
  cases op with
  | change c => simp [ringUse]
  | pass p => cases p <;> simp [ringUse]
  | take i => cases i <;> simp [ringUse]

theorem isOpen_after (hr : g.rings.get? h = some r) (ops : List Operation) {r' : Ring}
    (hr' : (g.after ops).rings.get? h = some r') :
    r'.isOpen = true ↔ r.isOpen = true ∧ .take (.closeRing h) ∉ ops := by
  induction ops generalizing g r with
  | nil =>
    cases hr.symm.trans hr'
    simp
  | cons op ops ih =>
    have hnext := get?_step hr op
    have hclose : ¬ Operation.take (.closeRing h) = op ↔ ringUse h (g, op) ≠ some .close := by
      rw [ne_eq, ringUse_eq_close_iff, eq_comm]
    rw [ih hnext hr', List.mem_cons, not_or, hclose, ← and_assoc]
    cases ringUse h (g, op) with
    | none => simp
    | some u => simp [r.isOpen_next u]

theorem frames_after_of_closed (hr : g.rings.get? h = some r) (hclosed : r.isOpen = false)
    (ops : List Operation) :
    ∃ r', (g.after ops).rings.get? h = some r' ∧ r'.frames = r.frames := by
  have hkeep : ∀ (r' : Ring) (u : Ring.Use), r'.isOpen = false ∧ r'.frames = r.frames →
      (r'.next u).isOpen = false ∧ (r'.next u).frames = r.frames := by
    rintro r' u ⟨hopen, hframes⟩
    refine ⟨?_, (Ring.frames_next_of_closed hopen u).trans hframes⟩
    have hnot := mt (r'.isOpen_next u).mp (by simp [hopen])
    simpa using hnot
  obtain ⟨r', hr', -, hframes⟩ := exists_ring_after hkeep ⟨r, hr, hclosed, rfl⟩ ops
  exact ⟨r', hr', hframes⟩

theorem get?_targets_after (g : Gate) (ops : List Operation) (q : UInt32) :
    (g.after ops).targets.get? q = ops.foldl (registers q) (g.targets.get? q) :=
  Run.view_after (fun g : Gate => g.targets.get? q) (fun g op => g.get?_targets_step op q) g ops

/-- **Redirected frames reach the right ring intact and are never lost uncounted**, in any run of a
gate after the ring was opened. -/
theorem openRing_conveys (g : Gate) (queue : UInt32) (capacity : Nat) (ops : List Operation) :
    let opened := g.openRing queue capacity
    ∃ r, opened.2.Conveys opened.1 capacity ops r := by
  intro opened
  have hr : opened.2.rings.get? opened.1 = some { queue := queue, capacity := capacity } :=
    Rings.get?_openRing g.rings queue capacity
  obtain ⟨r', hr', hcapacity, hlength⟩ := exists_ring_after
    (P := fun r => r.capacity = capacity ∧ r.frames.length ≤ capacity)
    (fun _ u hP => Ring.length_frames_next hP u) ⟨_, hr, rfl, Nat.zero_le _⟩ ops
  have hopen := isOpen_after hr ops hr'
  have hsettles : (fun q => ops.foldl (registers q) (opened.2.targets.get? q)) =
      (opened.2.after ops).targets.get? :=
    funext fun q => (opened.2.get?_targets_after ops q).symm
  refine ⟨r', hr', hcapacity, hlength, conserved_after hr rfl ops hr', ?_, ?_, ?_, ?_⟩
  · rw [overruns_after hr ops hr']
    exact UInt64.zero_add _
  · rw [hopen]
    simp
  · intro hclose newer
    have hclosed : r'.isOpen = false := by
      cases hstate : r'.isOpen with
      | false => rfl
      | true => exact absurd hclose (hopen.mp hstate).2
    rw [after, Run.after_append]
    exact frames_after_of_closed hr' hclosed newer
  · intro frame queue
    rw [hsettles]
    exact (opened.2.after ops).settles frame queue

end Gate

end IngressGate
