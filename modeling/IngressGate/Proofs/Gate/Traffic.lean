import IngressGate.Cli.Sample
import IngressGate.Proofs.Gate.Reload
/-!
# Failures and traffic leave no trace

Operators change a gate, frames pass it, and consumers take from it what the frames have left
behind, in any order. What operators are told and what becomes of frames depends on the `Policy` of
a gate alone, and that is changed only by operators whose change succeeds. So failed changes and any
part of the traffic can be struck from a run: everything else in it comes out as before.
-/
namespace IngressGate

/-! ## Operations -/

/-- What an operator does to a gate. -/
inductive Change
  | insertRule (k : Key) (v : ProtocolSet)
  | eraseRule (k : Key)
  | apply (s : Settings)
  | setThreshold (threshold : Option Level)
  | setMode (mode : RedirectMode)
  | openRing (queue : UInt32) (capacity : Nat)
  | setTarget (queue : UInt32) (ring : RingHandle)
  | clearTarget (queue : UInt32)

/-- What an operator is told about a change that succeeded. -/
inductive Change.Report
  | done
  | erased (found : Bool)
  | opened (ring : RingHandle)
  | cleared (old : Option RingHandle)
  deriving DecidableEq, Repr

/-- What happens to a frame: the whole, or one of the two decisions on the way. -/
inductive Passage
  | classify (frame : List UInt8) (queue : UInt32)
  | dispatch (verdict : Verdict)
  | process (frame : List UInt8) (queue : UInt32)

/-- What is decided about a frame. -/
inductive Passage.Decision
  | verdict (v : Verdict)
  | disposition (d : Disposition RingHandle)
  deriving DecidableEq, Repr

/-- What the consumers of events and of redirected frames do. -/
inductive Intake
  | receiveEvent
  | drainEvents
  | takeLost
  | observe
  | closeEvents
  | receiveFrames (ring : RingHandle) (count : Nat)
  | drainRing (ring : RingHandle)
  | closeRing (ring : RingHandle)

/-- What a consumer gets. -/
inductive Intake.Yield
  | nothing
  | records (rs : List Event.Record)
  | lost (count : UInt64)
  | tally (t : Observer.Tally)
  | frames (fs : List (List UInt8))
  deriving DecidableEq, Repr

/-- Anything that is done on a gate. -/
inductive Operation
  | change (c : Change)
  | pass (p : Passage)
  | take (i : Intake)

/-- What came of an operation. -/
inductive Outcome
  | changed (r : Except Failure Change.Report)
  | passed (d : Passage.Decision)
  | taken (y : Intake.Yield)
  deriving DecidableEq, Repr

namespace Ring

/-- Takes the oldest frames, up to a number. -/
def receive (r : Ring) (count : Nat) : List (List UInt8) × Ring :=
  if r.isOpen then (r.frames.take count, { r with frames := r.frames.drop count }) else ([], r)

end Ring

namespace Gate

/-- Lets an operator change the gate. -/
def change (g : Gate) : Change → Except Failure Change.Report × Gate
  | .insertRule k v =>
    let s := g.insertRule k v
    ((s.answer.mapError .capacity).map fun _ => .done, s.gate)
  | .eraseRule k =>
    let s := g.eraseRule k
    (.ok (.erased s.answer), s.gate)
  | .apply settings =>
    let s := g.apply settings
    (s.answer.map fun _ => .done, s.gate)
  | .setThreshold threshold => (.ok .done, g.setThreshold threshold)
  | .setMode mode => (.ok .done, g.setMode mode)
  | .openRing queue capacity =>
    let (ring, g) := g.openRing queue capacity
    (.ok (.opened ring), g)
  | .setTarget queue ring =>
    match g.setTarget queue ring with
    | .ok g => (.ok .done, g)
    | .error e => (.error (.target e), g)
  | .clearTarget queue =>
    match g.clearTarget queue with
    | .ok (old, g) => (.ok (.cleared old), g)
    | .error e => (.error (.target e), g)

/-- Lets a frame pass. -/
def pass (g : Gate) : Passage → Passage.Decision × Gate
  | .classify frame queue =>
    let (v, g) := g.classify frame queue
    (.verdict v, g)
  | .dispatch v =>
    let s := g.dispatch v
    (.disposition s.answer, s.gate)
  | .process frame queue =>
    let s := g.process frame queue
    (.disposition s.answer, s.gate)

/-- Lets a consumer take something off the event channel, if there is one. -/
def takeEvents {α : Type} (g : Gate) (f : Channel → α × Channel) : Option α × Gate :=
  (g.events.map fun c => (f c).1, { g with events := g.events.map fun c => (f c).2 })

/-- Lets a consumer take frames off a ring. -/
def takeFrames (g : Gate) (h : RingHandle) (f : Ring → List (List UInt8) × Ring) :
    List (List UInt8) × Gate :=
  (((g.rings.get? h).map fun r => (f r).1).getD [], g.modifyRing h fun r => (f r).2)

/-- Lets a consumer take what there is for it. -/
def take (g : Gate) : Intake → Intake.Yield × Gate
  | .receiveEvent =>
    let (record, g) := g.takeEvents Channel.receive
    (.records record.join.toList, g)
  | .drainEvents =>
    let (records, g) := g.takeEvents Channel.drain
    (.records (records.getD []), g)
  | .takeLost =>
    let (lost, g) := g.takeEvents Channel.takeLost
    (.lost (lost.getD 0), g)
  | .observe =>
    match g.observe with
    | some s => (.tally s.answer, s.gate)
    | none => (.nothing, g)
  | .closeEvents => (.nothing, { g with events := g.events.map Channel.close })
  | .receiveFrames h count =>
    let (frames, g) := g.takeFrames h fun r => r.receive count
    (.frames frames, g)
  | .drainRing h =>
    let (frames, g) := g.takeFrames h Ring.drain
    (.frames frames, g)
  | .closeRing h => (.nothing, g.modifyRing h Ring.close)

/-- Carries out an operation. -/
def step (g : Gate) : Operation → Outcome × Gate
  | .change c => (.changed (g.change c).1, (g.change c).2)
  | .pass p => (.passed (g.pass p).1, (g.pass p).2)
  | .take i => (.taken (g.take i).1, (g.take i).2)

/-- Carries out operations one after the other, and records what came of each. -/
def trace : Gate → List Operation → List (Operation × Outcome)
  | _, [] => []
  | g, op :: ops => (op, (g.step op).1) :: (g.step op).2.trace ops

/-! ## The policy -/

/-- All that decisions depend on. The number of rings is there for the names of those to come. -/
structure Policy where
  book : Book
  modeWord : UInt32
  targets : Targets RingHandle
  ringCount : Nat

/-- The policy of a gate. -/
def policy (g : Gate) : Policy := ⟨g.book, g.modeWord, g.targets, g.rings.rings.length⟩

variable {g g' : Gate}

theorem policy_eq_iff : g.policy = g'.policy ↔
    g.book = g'.book ∧ g.modeWord = g'.modeWord ∧ g.targets = g'.targets ∧
      g.rings.rings.length = g'.rings.rings.length :=
  Policy.mk.injEq .. |> Iff.of_eq

@[simp] theorem policy_modifyRing (g : Gate) (h : RingHandle) (f : Ring → Ring) :
    (g.modifyRing h f).policy = g.policy := by
  simp [policy, modifyRing, Rings.modify]

@[simp] theorem policy_classify (g : Gate) (frame : List UInt8) (queue : UInt32) :
    (g.classify frame queue).2.policy = g.policy := rfl

@[simp] theorem policy_dispatch (g : Gate) (v : Verdict) : (g.dispatch v).gate.policy = g.policy :=
  rfl

theorem policy_carryOut (g : Gate) (frame : List UInt8) (d : Disposition RingHandle) :
    (g.carryOut frame d).1.policy = g.policy := by
  cases d with
  | deliver reason => rfl
  | discard => rfl
  | push queue h =>
    -- A push changes one ring where it stands, if there is one.
    cases hring : g.rings.get? h with
    | none => simp [carryOut, Rings.push, hring]
    | some r => simp [carryOut, Rings.push, hring, policy, Rings.modify]

theorem policy_process (g : Gate) (frame : List UInt8) (queue : UInt32) :
    (g.process frame queue).gate.policy = g.policy := by
  rw [process, policy_carryOut, policy_dispatch, policy_classify]
  rfl

/-- Frames that pass leave the policy as it was. -/
theorem policy_pass (g : Gate) (p : Passage) : (g.pass p).2.policy = g.policy := by
  cases p with
  | classify frame queue => rfl
  | dispatch v => rfl
  | process frame queue => exact g.policy_process frame queue

/-- Consumers leave the policy as it was. -/
theorem policy_take (g : Gate) (i : Intake) : (g.take i).2.policy = g.policy := by
  cases i with
  | receiveEvent => rfl
  | drainEvents => rfl
  | takeLost => rfl
  | observe =>
    cases hevents : g.events with
    | none => simp [take, observe, hevents]
    | some c => simp [take, observe, hevents, policy]
  | closeEvents => rfl
  | receiveFrames h count => exact g.policy_modifyRing h _
  | drainRing h => exact g.policy_modifyRing h _
  | closeRing h => exact g.policy_modifyRing h _

/-- Only a change that succeeds changes the policy. -/
theorem policy_change_of_error {c : Change} {e : Failure} (h : (g.change c).1 = .error e) :
    (g.change c).2.policy = g.policy := by
  cases c with
  | insertRule k v =>
    cases hinsert : g.book.insert k v with
    | ok b => simp [change, insertRule, hinsert, Except.mapError, Except.map] at h
    | error e => simp [change, insertRule, hinsert]
  | eraseRule k => cases h
  | apply s =>
    rcases g.apply_cases s with ⟨e', -, -, hgate, -⟩ | ⟨b, threshold, -, -, hanswer, -⟩
    · rw [change, hgate]
    · simp [change, hanswer, Except.map] at h
  | setThreshold threshold => cases h
  | setMode mode => cases h
  | openRing queue capacity => cases h
  | setTarget queue ring =>
    cases hset : g.setTarget queue ring with
    | ok g' => simp [change, hset] at h
    | error e => simp [change, hset]
  | clearTarget queue =>
    cases hclear : g.clearTarget queue with
    | ok r => simp [change, hclear] at h
    | error e => simp [change, hclear]

/-! ## What depends on the policy alone -/

theorem policy_apply_congr (h : g.policy = g'.policy) (s : Settings) :
    (g.apply s).gate.policy = (g'.apply s).gate.policy := by
  obtain ⟨-, -, htargets, hcount⟩ := policy_eq_iff.mp h
  cases hruling : s.ruling with
  | error e => simpa only [apply, hruling]
  | ok r =>
    cases hthreshold : s.classifier.eventThreshold with
    | error e => simpa only [apply, hruling, hthreshold]
    | ok threshold =>
      cases hbook : Book.ofRuling r with
      | error e => simpa only [apply, replaceRules, hruling, hthreshold, hbook]
      | ok b =>
        simp only [apply, replaceRules, hruling, hthreshold, hbook]
        exact policy_eq_iff.mpr ⟨rfl, rfl, htargets, hcount⟩

/-- Gates of one policy answer a change alike, and have one policy after it. -/
theorem change_congr (h : g.policy = g'.policy) (c : Change) :
    (g.change c).1 = (g'.change c).1 ∧ (g.change c).2.policy = (g'.change c).2.policy := by
  obtain ⟨hbook, hmode, htargets, hcount⟩ := policy_eq_iff.mp h
  cases c with
  | insertRule k v =>
    simp only [change, insertRule, hbook]
    cases g'.book.insert k v with
    | ok b => exact ⟨rfl, policy_eq_iff.mpr ⟨rfl, hmode, htargets, hcount⟩⟩
    | error e => exact ⟨rfl, h⟩
  | eraseRule k =>
    simp only [change, eraseRule, hbook, true_and]
    exact policy_eq_iff.mpr ⟨rfl, hmode, htargets, hcount⟩
  | apply s =>
    exact ⟨by simp only [change, answer_apply_congr s g g'], policy_apply_congr h s⟩
  | setThreshold threshold => exact ⟨rfl, h⟩
  | setMode mode => exact ⟨rfl, policy_eq_iff.mpr ⟨hbook, rfl, htargets, hcount⟩⟩
  | openRing queue capacity =>
    simp [change, openRing, Rings.openRing, policy_eq_iff, hbook, hmode, htargets, hcount]
  | setTarget queue ring =>
    simp only [change, setTarget, htargets]
    cases g'.targets.set queue ring with
    | ok t => exact ⟨rfl, policy_eq_iff.mpr ⟨hbook, hmode, rfl, hcount⟩⟩
    | error e => exact ⟨rfl, h⟩
  | clearTarget queue =>
    simp only [change, clearTarget, htargets]
    cases g'.targets.clear queue with
    | ok r => exact ⟨rfl, policy_eq_iff.mpr ⟨hbook, hmode, rfl, hcount⟩⟩
    | error e => exact ⟨rfl, h⟩

theorem decide_congr (h : g.policy = g'.policy) (frame : List UInt8) (queue : UInt32) :
    g.decide frame queue = g'.decide frame queue := by
  obtain ⟨hbook, hmode, -, -⟩ := policy_eq_iff.mp h
  rw [decide, decide, mode, mode, hbook, hmode]

/-- Gates of one policy decide alike about a frame. -/
theorem pass_congr (h : g.policy = g'.policy) (p : Passage) : (g.pass p).1 = (g'.pass p).1 := by
  have htargets : g.targets = g'.targets := (policy_eq_iff.mp h).2.2.1
  cases p with
  | classify frame queue => simp only [pass, classify, decide_congr h]
  | dispatch v => simp only [pass, dispatch, htargets]
  | process frame queue =>
    change Passage.Decision.disposition (g.targets.dispatch (g.decide frame queue).verdict) =
      .disposition (g'.targets.dispatch (g'.decide frame queue).verdict)
    rw [decide_congr h, htargets]

/-! ## Striking operations from a run -/

/-- An operation that decides something: all but those of consumers. -/
def isDecision : Operation × Outcome → Bool
  | (.take _, _) => false
  | _ => true

/-- An operation that may matter to those after it: a change that succeeded. -/
def leavesTrace : Operation × Outcome → Bool
  | (.change _, .changed (.ok _)) => true
  | _ => false

/-- A record of a run, and what remains of it when some operations are struck that
leave no trace. -/
inductive Remains : List (Operation × Outcome) → List (Operation × Outcome) → Prop
  | nil : Remains [] []
  | keep {x xs ys} : Remains xs ys → Remains (x :: xs) (x :: ys)
  | strike {x xs ys} : leavesTrace x = false → Remains xs ys → Remains (x :: xs) ys

/-- Any choice of operations that leave no trace can be struck. -/
theorem Remains.filter {keep : Operation × Outcome → Bool} (h : ∀ x, leavesTrace x → keep x)
    (xs : List (Operation × Outcome)) : Remains xs (xs.filter keep) := by
  induction xs with
  | nil => exact .nil
  | cons x xs ih =>
    cases hkeep : keep x with
    | true => exact (List.filter_cons_of_pos hkeep) ▸ ih.keep
    | false =>
      have hx : leavesTrace x = false := by
        cases hx : leavesTrace x with
        | false => rfl
        | true => exact absurd (h x hx) (by simp [hkeep])
      rw [List.filter_cons_of_neg (by simp [hkeep])]
      exact .strike hx ih

/-- An operation that leaves no trace leaves the policy as it was. -/
theorem policy_step_of_not_leavesTrace {op : Operation}
    (h : leavesTrace (op, (g.step op).1) = false) : (g.step op).2.policy = g.policy := by
  cases op with
  | change c =>
    cases hc : (g.change c).1 with
    | ok r => simp [step, leavesTrace, hc] at h
    | error e => exact policy_change_of_error hc
  | pass p => exact g.policy_pass p
  | take i => exact g.policy_take i

/-- Gates of one policy have one policy after an operation as well, and what it decides is the same
on both. -/
theorem step_congr (h : g.policy = g'.policy) (op : Operation) :
    (g.step op).2.policy = (g'.step op).2.policy ∧
      [(op, (g.step op).1)].filter isDecision = [(op, (g'.step op).1)].filter isDecision := by
  cases op with
  | change c =>
    obtain ⟨hanswer, hpolicy⟩ := change_congr h c
    exact ⟨hpolicy, by simp [step, hanswer]⟩
  | pass p =>
    refine ⟨?_, by simp [step, pass_congr h p]⟩
    exact (g.policy_pass p).trans (h.trans (g'.policy_pass p).symm)
  | take i => exact ⟨(g.policy_take i).trans (h.trans (g'.policy_take i).symm), rfl⟩

/-- What remains of a run is decided alike by a gate of the same policy. -/
theorem filter_trace_eq_of_remains {ops : List Operation} {rest : List (Operation × Outcome)}
    (h : g.policy = g'.policy) (hrest : Remains (g.trace ops) rest) :
    (g'.trace (rest.map Prod.fst)).filter isDecision = rest.filter isDecision := by
  -- An operation that is kept is carried out on both gates, one that is struck on `g` alone. Either
  -- way the gates have one policy afterwards.
  induction ops generalizing g g' rest with
  | nil =>
    cases hrest
    rfl
  | cons op ops ih =>
    rw [trace] at hrest
    cases hrest with
    | keep hrest =>
      obtain ⟨hpolicy, hdecision⟩ := step_congr h op
      rw [List.map_cons, trace, ← List.singleton_append, List.filter_append, ih hpolicy hrest,
        ← hdecision, ← List.filter_append, List.singleton_append]
    | strike hstruck hrest => exact ih ((policy_step_of_not_leavesTrace hstruck).trans h) hrest

/-- **Failures and traffic leave no trace in decisions.** Strike from any run on any gate any of the
changes that failed, and any of the frames that passed and of what consumers did. What operators are
told about the changes that are left, and what becomes of the frames that are left, is in the run of
these alone what it was in the full run. -/
theorem decisions_of_remains (g : Gate) (ops : List Operation) (rest : List (Operation × Outcome))
    (h : Remains (g.trace ops) rest) :
    (g.trace (rest.map Prod.fst)).filter isDecision = rest.filter isDecision :=
  filter_trace_eq_of_remains rfl h

/-- A gate whose channel has room for one event. -/
def oneEventGate : Gate := { events := some (.ofCapacity 1) }

/-- A run with two changes that fail, and with a second frame that finds its ring full. -/
def fullRingRun : List Operation :=
  let source : Address := .v4 (.ofBytes 10 0 0 5)
  let frame := (Sample.frame .udp source 53).toOption.getD []
  [.change (.openRing 0 1), .change (.setTarget 0 ⟨0⟩), .change (.setTarget 64 ⟨0⟩),
    .change (.insertRule (.address source) .udp), .pass (.process frame 0),
    .change (.apply { classifier := { eventLevel := some "loud" } }), .pass (.process frame 0),
    .take .drainEvents, .pass (.classify frame 0), .take (.drainRing ⟨0⟩)]

/-- What remains of it when the verdict alone is left of all traffic. -/
def fullRingRest : List (Operation × Outcome) :=
  (oneEventGate.trace fullRingRun).filter fun x =>
    leavesTrace x || x.1 matches .pass (.classify _ _)

theorem decisions_fullRingRest :
    Remains (oneEventGate.trace fullRingRun) fullRingRest ∧
      fullRingRest.map Prod.snd = [.changed (.ok (.opened ⟨0⟩)), .changed (.ok .done),
        .changed (.ok .done), .passed (.verdict (.redirect 0))] ∧
      (oneEventGate.trace (fullRingRest.map Prod.fst)).filter isDecision =
        fullRingRest.filter isDecision :=
  have hremains : Remains (oneEventGate.trace fullRingRun) fullRingRest :=
    .filter (fun x hx => by simp [hx]) _
  ⟨hremains, by decide +kernel, decisions_of_remains oneEventGate fullRingRun fullRingRest hremains⟩

end Gate

end IngressGate
