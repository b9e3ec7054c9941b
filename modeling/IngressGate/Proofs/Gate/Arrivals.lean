import Mathlib.Algebra.BigOperators.Fin
import Mathlib.Data.Fintype.BigOperators
import IngressGate.Proofs.Counters
import IngressGate.Proofs.Decision.Explanation
import IngressGate.Proofs.Gate.Redirection
/-!
# The counters tell what became of the frames

A run in which every frame is processed as a whole is, for the counters, nothing but the list of its
arrivals: each frame with the gate that it finds. What one arrival adds to the counters is
`Counters.account`, and the counters after a run are the fold of it. So each of them has counted the
arrivals of some kind, and the global ones balance.
-/
namespace IngressGate

/-! ## Arrivals -/

/-- A frame that is processed: the gate that it finds, and the queue that it arrived on. -/
structure Arrival where
  gate : Gate
  frame : List UInt8
  queue : UInt32

namespace Arrival
variable (a : Arrival)

/-- What is decided about the frame. -/
def finding : Finding := a.gate.decide a.frame a.queue

/-- The verdict on the frame. -/
def verdict : Verdict := (a.gate.classify a.frame a.queue).1

/-- What is done with the frame. -/
def disposition : Disposition RingHandle := (a.gate.process a.frame a.queue).answer

/-- The frame is redirected to a queue that there is not. -/
def isOutOfRange : Bool := a.verdict.queue?.any fun q => queueCount ≤ q.toNat

/-- A header that the decision about the frame needs cannot be read. -/
def MeetsUnreadable : Prop := ∃ layer error, Unreadable a.gate.book.get? a.frame layer error

theorem meetsUnreadable_iff : a.MeetsUnreadable ↔ a.finding.isInvalid = true := by
  have hkind : a.MeetsUnreadable ↔ a.finding.kind = .invalidPacket := exists_unreadable_iff
  rw [hkind]
  cases a.finding <;> simp [Finding.kind, Finding.isInvalid]

instance : DecidablePred MeetsUnreadable := fun a => decidable_of_iff _ a.meetsUnreadable_iff.symm

theorem disposition_eq : a.disposition = a.gate.targets.dispatch a.verdict := rfl

/-- Nobody is registered for a queue that there is not. -/
theorem isOutOfRange_eq :
    a.isOutOfRange = a.disposition.fallback?.any fun q => queueCount ≤ q.toNat := by
  rw [isOutOfRange, disposition_eq, Targets.fallback?_dispatch]
  cases a.verdict.queue? with
  | none => rfl
  | some q =>
    cases ht : a.gate.targets.get? q with
    | none => rw [Option.filter_some_pos (by simp [ht])]
    | some target =>
      have hq : ¬ queueCount ≤ q.toNat := fun hq => by
        rw [Targets.get?_of_le hq] at ht
        cases ht
      rw [Option.filter_some_neg (by simp [ht]), Option.any_some, decide_eq_false hq]
      rfl

end Arrival

/-! ## What an arrival adds -/

namespace Counters

/-- What an arrival adds to the counters. -/
def account (c : Counters) (a : Arrival) : Counters :=
  a.disposition.count (Gate.countFinding a.finding (c.arrive a.queue (.ofNat a.frame.length)))

theorem count_fallback_eq (c : Counters) (d : Disposition RingHandle) :
    d.count c = { c with
      fallbacks := c.fallbacks + if d.fallback?.isSome then 1 else 0
      queues := (d.count c).queues } := by
  rw [d.count_eq]
  cases d.fallback? with
  | none => simp
  | some q =>
    rw [Option.elim_some, addFallback_eq]
    simp

/-- What an arrival adds to each of the global counters. -/
theorem account_eq (c : Counters) (a : Arrival) :
    c.account a = { c with
      frames := c.frames + 1
      passed := c.passed + if a.verdict = .pass then 1 else 0
      dropped := c.dropped + if a.verdict = .drop then 1 else 0
      redirected := c.redirected + if a.verdict.queue?.isSome then 1 else 0
      invalid := c.invalid + if a.MeetsUnreadable then 1 else 0
      fallbacks := c.fallbacks + if a.disposition.fallback?.isSome then 1 else 0
      queues := (c.account a).queues } := by
  have hverdict : a.finding.verdict = a.verdict := rfl
  rw [account, count_fallback_eq, Gate.countFinding, hverdict, addVerdict_eq, arrive,
    modifyQueue_eq]
  simp only [a.meetsUnreadable_iff]
  cases a.finding.isInvalid <;> simp [addInvalid]

variable {i : Nat} (hi : i < queueCount)
include hi

theorem getElem_count (c : Counters) (d : Disposition RingHandle) :
    (d.count c).queues[i] = { c.queues[i] with
      missingTarget := c.queues[i].missingTarget +
        if d.fallback?.any fun q => q.toNat = i then 1 else 0 } := by
  rw [d.count_eq]
  cases d.fallback? with
  | none => simp
  | some q =>
    simp only [Option.elim_some, getElem_addFallback hi, Option.any_some, decide_eq_true_eq]

/-- What an arrival adds to the counters of each queue. -/
theorem getElem_account (c : Counters) (a : Arrival) :
    (c.account a).queues[i] =
      { frames := c.queues[i].frames + if a.queue.toNat = i then 1 else 0
        bytes := c.queues[i].bytes + if a.queue.toNat = i then .ofNat a.frame.length else 0
        redirected := c.queues[i].redirected +
          if a.verdict.queue?.any fun q => q.toNat = i then 1 else 0
        missingTarget := c.queues[i].missingTarget +
          if a.disposition.fallback?.any fun q => q.toNat = i then 1 else 0 } := by
  have hinvalid (c : Counters) :
      (if a.finding.isInvalid then c.addInvalid else c).queues = c.queues := by
    split <;> rfl
  have hverdict : a.finding.verdict = a.verdict := rfl
  simp only [account, Gate.countFinding, hverdict, getElem_count hi, getElem_addVerdict hi,
    hinvalid, getElem_arrive hi]

end Counters

/-! ## What the counters have counted -/

/-- The numbers of queues that are named: those that there are, one by one, and those beyond. -/
theorem countP_isSome_eq_sum {α : Type} (queue? : α → Option UInt32) (xs : List α) :
    xs.countP (fun x => (queue? x).isSome) =
      (∑ i : Fin queueCount, xs.countP fun x => (queue? x).any fun q => q.toNat = i.val) +
        xs.countP fun x => (queue? x).any fun q => queueCount ≤ q.toNat := by
  have hone (x : α) : (if (queue? x).isSome then 1 else 0) =
      (∑ i : Fin queueCount, if (queue? x).any fun q => q.toNat = i.val then 1 else 0) +
        if (queue? x).any fun q => queueCount ≤ q.toNat then 1 else 0 := by
    cases queue? x with
    | none => simp
    | some q =>
      by_cases hq : q.toNat < queueCount
      · have hfin (i : Fin queueCount) : q.toNat = i.val ↔ ⟨q.toNat, hq⟩ = i := by
          rw [Fin.ext_iff]
        simp [hfin, Nat.not_le_of_lt hq]
      · have hne (i : Fin queueCount) : q.toNat ≠ i.val := fun h => hq (h ▸ i.isLt)
        simp [hne, Nat.le_of_not_lt hq]
  induction xs with
  | nil => simp
  | cons x xs ih =>
    simp only [List.countP_cons, Finset.sum_add_distrib, ih, hone x]
    omega

namespace Counters
variable {as : List Arrival}

/-- A counter that starts at zero has counted the arrivals of its kind. -/
theorem toNat_foldl_account (counter : Counters → UInt64) {counts : Arrival → Bool}
    (hstep : ∀ c a, counter (c.account a) = counter c + if counts a then 1 else 0)
    (hzero : counter {} = 0) (h : as.length < 2 ^ 64) :
    (counter (as.foldl account {})).toNat = as.countP counts := by
  have hcounted : counter (as.foldl account {}) =
      counter {} + UInt64.ofNat (as.countP counts) := Run.counted_uses counter hstep {} as
  rw [hcounted, hzero, UInt64.zero_add,
    UInt64.toNat_ofNat_of_lt' (Nat.lt_of_le_of_lt List.countP_le_length h)]

/-- What the global counters say of the arrivals that they have counted. -/
structure Balances (c : Counters) (as : List Arrival) : Prop where
  /-- Every frame is passed, dropped or redirected. -/
  frames_eq_add : c.frames.toNat = c.passed.toNat + c.dropped.toNat + c.redirected.toNat
  frames_eq : c.frames.toNat = as.length
  dropped_eq : c.dropped.toNat = as.countP (·.disposition.isDiscard)
  /-- A redirect is a push, or comes to a delivery. -/
  redirected_eq : c.redirected.toNat = as.countP (·.disposition.isPush) + c.fallbacks.toNat
  delivered_eq : c.passed.toNat + c.fallbacks.toNat = as.countP (·.disposition.isDeliver)
  /-- A redirect comes to a delivery for lack of a consumer on its queue, or of the queue itself. -/
  fallbacks_eq : c.fallbacks.toNat =
    (∑ q : Fin queueCount, c.queues[q].missingTarget.toNat) + as.countP (·.isOutOfRange)
  invalid_eq : c.invalid.toNat = as.countP fun a => a.MeetsUnreadable

theorem balances_foldl_account (h : as.length < 2 ^ 64) : (as.foldl account {}).Balances as := by
  have hframes : (as.foldl account {}).frames.toNat = as.countP fun _ => true :=
    toNat_foldl_account frames (fun c a => by rw [account_eq]; rfl) rfl h
  have hpassed : (as.foldl account {}).passed.toNat = as.countP fun a => a.verdict = .pass :=
    toNat_foldl_account passed (fun c a => by rw [account_eq]; simp) rfl h
  have hdropped : (as.foldl account {}).dropped.toNat = as.countP fun a => a.verdict = .drop :=
    toNat_foldl_account dropped (fun c a => by rw [account_eq]; simp) rfl h
  have hredirected : (as.foldl account {}).redirected.toNat =
      as.countP fun a => a.verdict.queue?.isSome :=
    toNat_foldl_account redirected (fun c a => by rw [account_eq]) rfl h
  have hfallbacks : (as.foldl account {}).fallbacks.toNat =
      as.countP fun a => a.disposition.fallback?.isSome :=
    toNat_foldl_account fallbacks (fun c a => by rw [account_eq]) rfl h
  have hmissing (q : Fin queueCount) : (as.foldl account {}).queues[q].missingTarget.toNat =
      as.countP fun a => a.disposition.fallback?.any fun q' => q'.toNat = q.val :=
    toNat_foldl_account (fun c => c.queues[q].missingTarget)
      (fun c a => congrArg QueueCounters.missingTarget (getElem_account q.isLt c a)) (by simp) h
  have hinvalid : (as.foldl account {}).invalid.toNat = as.countP fun a => a.MeetsUnreadable :=
    toNat_foldl_account invalid (fun c a => by rw [account_eq]; simp) rfl h
  -- A verdict passes the frame or not, and in the second case drops or redirects it.
  have hkept : (as.countP fun _ => true) =
      (as.countP fun a => a.verdict = .pass) + as.countP fun a => a.verdict ≠ .pass :=
    Run.countP_eq_add (fun a => by cases a.verdict <;> rfl) as
  have hother : (as.countP fun a => a.verdict ≠ .pass) =
      (as.countP fun a => a.verdict = .drop) + as.countP fun a => a.verdict.queue?.isSome :=
    Run.countP_eq_add (fun a => by cases a.verdict <;> rfl) as
  have hpushed : (as.countP fun a => a.verdict.queue?.isSome) =
      as.countP (·.disposition.isPush) + as.countP fun a => a.disposition.fallback?.isSome :=
    Run.countP_eq_add (fun a => a.gate.targets.toNat_redirect a.verdict) as
  have hdelivered : as.countP (·.disposition.isDeliver) =
      (as.countP fun a => a.verdict = .pass) +
        as.countP fun a => a.disposition.fallback?.isSome :=
    Run.countP_eq_add (fun a => a.gate.targets.toNat_isDeliver a.verdict) as
  refine ⟨?_, ?_, ?_, ?_, ?_, ?_, hinvalid⟩
  · omega
  · rw [hframes, List.countP_true]
  · rw [hdropped]
    exact List.countP_congr fun a _ => by rw [a.disposition_eq, Targets.isDiscard_dispatch]
  · omega
  · omega
  · have hbeyond : (as.countP (·.isOutOfRange)) =
        as.countP fun a => a.disposition.fallback?.any fun q => queueCount ≤ q.toNat :=
      List.countP_congr fun a _ => by rw [a.isOutOfRange_eq]
    rw [hfallbacks, countP_isSome_eq_sum, hbeyond]
    simp only [hmissing]

end Counters

namespace Gate

/-! ## Runs -/

/-- The arrival of a frame, where it is processed as a whole. -/
def arrival? : Gate × Operation → Option Arrival
  | (g, .pass (.process frame queue)) => some ⟨g, frame, queue⟩
  | _ => none

/-- The arrivals of a run, in order. -/
def arrivals (g : Gate) (ops : List Operation) : List Arrival :=
  (g.moments ops).filterMap arrival?

end Gate

/-- No part of the treatment of a frame is done on its own. -/
def Operation.isWhole : Operation → Bool
  | .pass (.classify _ _) | .pass (.dispatch _) => false
  | _ => true

namespace Gate

theorem counters_carryOut (g : Gate) (frame : List UInt8) (d : Disposition RingHandle) :
    (g.carryOut frame d).1.counters = g.counters := by
  cases d <;> rfl

theorem counters_process (g : Gate) (frame : List UInt8) (queue : UInt32) :
    (g.process frame queue).gate.counters = g.counters.account ⟨g, frame, queue⟩ := by
  rw [process, counters_carryOut]
  rfl

theorem counters_change (g : Gate) (c : Change) : (g.change c).2.counters = g.counters := by
  cases c with
  | insertRule k v =>
    cases hinsert : g.book.insert k v <;> simp [change, insertRule, hinsert]
  | apply s => exact (sameTraffic_apply s g).counters_eq
  | setTarget queue ring =>
    cases hset : g.targets.set queue ring <;> simp [change, setTarget, hset, Except.map]
  | clearTarget queue =>
    cases hclear : g.targets.clear queue <;> simp [change, clearTarget, hclear, Except.map]
  | eraseRule | setThreshold | setMode | openRing => rfl

theorem counters_take (g : Gate) (i : Intake) : (g.take i).2.counters = g.counters := by
  cases i with
  | observe => cases hevents : g.events <;> simp [take, observe, hevents]
  | receiveEvent | drainEvents | takeLost | closeEvents | receiveFrames | drainRing | closeRing =>
    rfl

/-- For the counters, an operation is an arrival or nothing. -/
theorem counters_step {op : Operation} (h : op.isWhole = true) (g : Gate) :
    (g.step op).2.counters = (arrival? (g, op)).elim g.counters g.counters.account := by
  cases op with
  | change c => exact g.counters_change c
  | pass p =>
    cases p with
    | classify | dispatch => cases h
    | process frame queue => exact g.counters_process frame queue
  | take i => exact g.counters_take i

/-- The counters after a run are the fold of what its arrivals add. -/
theorem counters_after {ops : List Operation} (h : ∀ op ∈ ops, op.isWhole = true) (g : Gate) :
    (g.after ops).counters = (g.arrivals ops).foldl Counters.account g.counters := by
  induction ops generalizing g with
  | nil => rfl
  | cons op ops ih =>
    have hop := counters_step (h op List.mem_cons_self) g
    have hrest := ih (fun op' hop' => h op' (List.mem_cons_of_mem _ hop')) (g.step op).2
    rw [after, Run.after_cons, arrivals, moments, Run.moments_cons]
    rw [after, arrivals, moments] at hrest
    rw [hrest, hop]
    cases harrival : arrival? (g, op) with
    | none => rw [List.filterMap_cons_none harrival]; rfl
    | some a => rw [List.filterMap_cons_some harrival]; rfl

/-- **The global counters balance** after every run that starts with fresh counters and in which
frames are classified by being processed. -/
theorem counters_balance (g : Gate) (ops : List Operation) (hfresh : g.counters = {})
    (hwhole : ∀ op ∈ ops, op.isWhole = true) (hbound : (g.arrivals ops).length < 2 ^ 64) :
    (g.after ops).counters.Balances (g.arrivals ops) := by
  rw [counters_after hwhole, hfresh]
  exact Counters.balances_foldl_account hbound

/-- A run in which a datagram is pushed, is redirected to a queue without a consumer and to one that
there is not, and is dropped; and in which a frame comes without a header. -/
def mixedRun : List Operation :=
  let source : Key := .address (.v4 (.ofBytes 10 0 0 5))
  [.change (.openRing 0 1), .change (.setTarget 0 ⟨0⟩), .change (.insertRule source .udp),
    .pass (.process queryFrame 0), .change (.setMode (.fixed 5)), .pass (.process queryFrame 0),
    .change (.setMode (.fixed 64)), .pass (.process queryFrame 0),
    .change (.insertRule source .tcp), .pass (.process queryFrame 0), .pass (.process [] 3)]

theorem counters_balance_mixedRun :
    ({} : Gate).counters = {} ∧ (∀ op ∈ mixedRun, op.isWhole = true) ∧
      (arrivals {} mixedRun).length < 2 ^ 64 ∧
      (after {} mixedRun).counters.Balances (arrivals {} mixedRun) ∧
      (after {} mixedRun).counters.globals.map Prod.snd = [5, 1, 1, 3, 1, 2, 0] :=
  have hwhole : ∀ op ∈ mixedRun, op.isWhole = true := by decide
  have hbound : (arrivals {} mixedRun).length < 2 ^ 64 := by decide +kernel
  ⟨rfl, hwhole, hbound, counters_balance {} mixedRun rfl hwhole hbound, by decide +kernel⟩

end Gate

end IngressGate
