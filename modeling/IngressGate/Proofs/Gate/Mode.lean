import IngressGate.Proofs.Gate.Redirection
import IngressGate.Proofs.Settings.Agreement
/-!
# The redirect mode in force

A gate keeps its redirect mode as one word. The mode in force after a run is the one that was set
last, by an operator or by settings that were put in force, and all redirects go where it says. One
mode is the exception: the fixed mode of the largest queue number has the word of the arrival mode,
and turns into it.
-/
namespace IngressGate

/-- The mode that a change sets, if it succeeds. -/
def Change.mode? : Change → Option RedirectMode
  | .setMode m => some m
  | .apply s => some s.classifier.redirectMode
  | _ => none

namespace RedirectMode

/-- The mode that a word is read as is the one that was written, one mode apart. -/
theorem ofWord_toWord_eq (m : RedirectMode) :
    ofWord m.toWord = if m = .fixed arrivalWord then .arrival else m := by
  split
  · next h => rw [h]; rfl
  · next h => exact ofWord_toWord h

end RedirectMode

namespace Gate
variable {g : Gate} {m : RedirectMode} {ops : List Operation}

/-! ## Which mode was set last -/

/-- The mode that an operation sets: that of a change that succeeds. -/
def modeSet? : Gate × Operation → Option RedirectMode
  | (g, .change c) =>
    match (g.change c).1 with
    | .ok _ => c.mode?
    | .error _ => none
  | _ => none

/-- The mode that is set last in a run. -/
def lastMode? (g : Gate) (ops : List Operation) : Option RedirectMode :=
  ((g.moments ops).filterMap modeSet?).getLast?

theorem modeWord_change (g : Gate) (c : Change) :
    (g.change c).2.modeWord = (modeSet? (g, .change c)).elim g.modeWord RedirectMode.toWord := by
  cases hanswer : (g.change c).1 with
  | error e =>
    simp only [modeSet?, hanswer]
    exact (policy_eq_iff.mp (policy_change_of_error hanswer)).2.1
  | ok r =>
    simp only [modeSet?, hanswer]
    cases c with
    | setMode m => rfl
    | apply s =>
      obtain ⟨e, -, herror, -⟩ | ⟨b, threshold, -, -, -, hgate, -⟩ := g.apply_cases s
      · rw [change, herror] at hanswer
        cases hanswer
      · rw [change, hgate]
        rfl
    | insertRule k v =>
      cases hinsert : g.book.insert k v <;> simp [change, insertRule, hinsert, Change.mode?]
    | setTarget q h =>
      cases hset : g.targets.set q h <;> simp [change, setTarget, hset, Except.map, Change.mode?]
    | clearTarget q =>
      cases hclear : g.targets.clear q <;>
        simp [change, clearTarget, hclear, Except.map, Change.mode?]
    | eraseRule | setThreshold | openRing => rfl

theorem modeWord_step (g : Gate) (op : Operation) :
    (g.step op).2.modeWord = (modeSet? (g, op)).elim g.modeWord RedirectMode.toWord := by
  cases op with
  | change c => exact g.modeWord_change c
  | pass p => exact (policy_eq_iff.mp (g.policy_pass p)).2.1
  | take i => exact (policy_eq_iff.mp (g.policy_take i)).2.1

/-- The word after a run is that of the mode that was set last. -/
theorem modeWord_after (g : Gate) (ops : List Operation) :
    (g.after ops).modeWord = (g.lastMode? ops).elim g.modeWord RedirectMode.toWord := by
  induction ops generalizing g with
  | nil => rfl
  | cons op ops ih =>
    have hop := g.modeWord_step op
    have hrest := ih (g.step op).2
    rw [after, Run.after_cons, lastMode?, moments, Run.moments_cons]
    rw [after, lastMode?, moments] at hrest
    rw [hrest]
    cases hset : modeSet? (g, op) with
    | none => rw [hop, hset, List.filterMap_cons_none hset, Option.elim_none]
    | some m =>
      rw [hop, hset, List.filterMap_cons_some hset, List.getLast?_cons]
      cases (List.filterMap modeSet? _).getLast? <;> rfl

theorem mode_after (h : g.lastMode? ops = some m) :
    (g.after ops).mode = if m = .fixed RedirectMode.arrivalWord then .arrival else m := by
  rw [mode, modeWord_after, h, Option.elim_some, RedirectMode.ofWord_toWord_eq]

/-! ## Where redirects go -/

/-- Every frame that is redirected goes to the queue that a mode gives for it. -/
def RedirectsBy (g : Gate) (m : RedirectMode) : Prop :=
  ∀ frame queue q, (g.classify frame queue).1 = .redirect q → q = m.queue queue

theorem redirectsBy_mode (g : Gate) : g.RedirectsBy g.mode := fun _ _ _ => eq_of_classify_redirect

/-- A frame with an empty address resolution message. -/
def arpFrame : List UInt8 := List.replicate 12 0 ++ [0x08, 0x06]

theorem classify_arpFrame (g : Gate) (queue : UInt32) :
    (g.classify arpFrame queue).1 = .redirect (g.mode.queue queue) := rfl

/-- Only the mode in force redirects as it does. -/
theorem redirectsBy_iff : g.RedirectsBy m ↔ g.mode.queue = m.queue := by
  constructor
  · intro h
    funext queue
    exact h arpFrame queue _ (g.classify_arpFrame queue)
  · rintro h frame queue q hverdict
    rw [← h]
    exact g.redirectsBy_mode frame queue q hverdict

theorem queue_arrival_ne :
    RedirectMode.arrival.queue ≠ (RedirectMode.fixed RedirectMode.arrivalWord).queue :=
  fun h => absurd (congrFun h 0) (by decide)

/-- **The mode that was set last is the mode in force,** with one exception. It is what the gate
tells, and until another mode is set all redirects follow it, whatever else happens on the gate and
however the mode was set; exactly the fixed mode of the largest queue number is not kept, but taken
for the arrival mode. -/
theorem lastMode_inForce_iff (h : g.lastMode? ops = some m) :
    ((g.after ops).mode = m ↔ m ≠ .fixed 0xFFFFFFFF) ∧
    ((g.after ops).RedirectsBy m ↔ m ≠ .fixed 0xFFFFFFFF) ∧
    (m = .fixed 0xFFFFFFFF →
      (g.after ops).mode = .arrival ∧ (g.after ops).RedirectsBy .arrival) := by
  have hmode := mode_after h
  have hredirects := (g.after ops).redirectsBy_mode
  by_cases hm : m = .fixed 0xFFFFFFFF
  · rw [if_pos (show m = .fixed RedirectMode.arrivalWord from hm)] at hmode
    rw [hmode] at hredirects
    refine ⟨?_, ?_, fun _ => ⟨hmode, hredirects⟩⟩
    · simp [hmode, hm]
    · rw [redirectsBy_iff, hmode, hm]
      exact iff_of_false queue_arrival_ne (not_not.mpr rfl)
  · rw [if_neg (show ¬ m = .fixed RedirectMode.arrivalWord from hm)] at hmode
    rw [hmode] at hredirects
    exact ⟨by simp [hmode, hm], by simp [hredirects, hm], fun h => absurd h hm⟩

/-- A run in which the last mode that is set is fixed, with the largest queue number that a fixed
mode keeps: settings that are refused do not set theirs. -/
def modesRun : List Operation :=
  [.change (.apply { classifier := { redirect := .arrival } }),
    .change (.setMode (.fixed 0xFFFFFFFE)), .change (.apply badSecondEntry),
    .pass (.process arpFrame 3)]

theorem lastMode_inForce_modesRun :
    lastMode? {} modesRun = some (.fixed 0xFFFFFFFE) ∧
      (after {} modesRun).mode = .fixed 0xFFFFFFFE ∧
      (after {} modesRun).RedirectsBy (.fixed 0xFFFFFFFE) ∧
      ((after {} modesRun).classify arpFrame 3).1 = .redirect 0xFFFFFFFE := by
  have hlast : lastMode? {} modesRun = some (.fixed 0xFFFFFFFE) := by decide +kernel
  obtain ⟨hmode, hredirects, -⟩ := lastMode_inForce_iff hlast
  have hmode := hmode.mpr (by decide)
  exact ⟨hlast, hmode, hredirects.mpr (by decide), by rw [classify_arpFrame, hmode]; rfl⟩

/-- The fixed mode of the largest queue number is set, and the arrival mode is in force. -/
theorem mode_setMode_largest :
    lastMode? {} [.change (.setMode (.fixed 0xFFFFFFFF))] = some (.fixed 0xFFFFFFFF) ∧
      (setMode {} (.fixed 0xFFFFFFFF)).mode ≠ .fixed 0xFFFFFFFF ∧
      ((setMode {} (.fixed 0xFFFFFFFF)).classify arpFrame 3).1 = .redirect 3 ∧
      RedirectMode.queue (.fixed 0xFFFFFFFF) 3 ≠ 3 := by
  decide

end Gate

end IngressGate
