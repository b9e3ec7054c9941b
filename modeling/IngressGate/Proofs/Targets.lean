import Mathlib.Tactic.Common
import IngressGate.Targets
/-!
# Redirect targets

The table of consumers as a map from the numbers of queues, and what is done with a frame as a
matter of its verdict and of that map.
-/
namespace IngressGate

namespace Disposition
variable {α : Type}

/-- The frame goes on into the network stack. -/
def isDeliver : Disposition α → Bool
  | deliver _ => true
  | _ => false

/-- The frame is discarded. -/
def isDiscard : Disposition α → Bool
  | discard => true
  | _ => false

/-- The frame is pushed to a consumer. -/
def isPush : Disposition α → Bool
  | push _ _ => true
  | _ => false

/-- The queue of a redirect that came to a delivery. -/
def fallback? : Disposition α → Option UInt32
  | deliver (some (.missing queue)) | deliver (some (.outOfRange queue)) => some queue
  | _ => none

theorem count_eq (d : Disposition α) (c : Counters) :
    d.count c = d.fallback?.elim c c.addFallback := by
  rcases d with (_ | _ | _) | _ | _ <;> rfl

end Disposition

/-- The queue that a redirect names. -/
def Verdict.queue? : Verdict → Option UInt32
  | redirect queue => some queue
  | _ => none

namespace Targets
variable {α : Type} {t t' : Targets α} {q q' : UInt32}

theorem dispatch_eq_push_iff {v : Verdict} {target : α} :
    t.dispatch v = .push q target ↔ v = .redirect q ∧ t.get q = .ok target := by
  cases v with
  | pass => simp [dispatch]
  | drop => simp [dispatch]
  | redirect q' =>
    rw [dispatch]
    cases hget : t.get q' with
    | ok target' =>
      simp only [Disposition.push.injEq, Verdict.redirect.injEq]
      constructor
      · rintro ⟨rfl, rfl⟩
        exact ⟨rfl, hget⟩
      · rintro ⟨rfl, htarget⟩
        rw [hget] at htarget
        cases htarget
        exact ⟨rfl, rfl⟩
    | error e =>
      simp only [reduceCtorEq, Verdict.redirect.injEq, false_iff, not_and]
      rintro rfl htarget
      rw [hget] at htarget
      cases htarget

theorem dispatch_eq_discard_iff {v : Verdict} : t.dispatch v = .discard ↔ v = .drop := by
  cases v with
  | pass => simp [dispatch]
  | drop => simp [dispatch]
  | redirect q =>
    rw [dispatch]
    cases t.get q <;> simp

/-- The consumer of a queue, if it has one. -/
def get? (t : Targets α) (queue : UInt32) : Option α := (t.get queue).toOption

theorem get_eq_ok_iff {target : α} : t.get q = .ok target ↔ t.get? q = some target := by
  rw [get?]
  cases t.get q <;> simp [Except.toOption]

theorem get?_eq (t : Targets α) (q : UInt32) : t.get? q = (t.slots[q.toNat]?).join := by
  rw [get?, get]
  split
  · next hq =>
    rw [Vector.getElem?_eq_getElem hq]
    cases t.slots[q.toNat] <;> rfl
  · next hq =>
    rw [Vector.getElem?_eq_none (Nat.le_of_not_lt hq)]
    rfl

theorem get?_setSlot (t : Targets α) (h : q'.toNat < queueCount) (slot : Option α) (q : UInt32) :
    (⟨t.slots.set q'.toNat slot⟩ : Targets α).get? q = if q' = q then slot else t.get? q := by
  rw [get?_eq, get?_eq, Vector.getElem?_set]
  simp only [UInt32.toNat_inj]
  split_ifs <;> simp

theorem get?_of_le (h : queueCount ≤ q.toNat) : t.get? q = none := by
  rw [get?_eq, Vector.getElem?_eq_none h]
  rfl

/-! ## What is done with a frame -/

theorem dispatch_redirect (t : Targets α) (q : UInt32) :
    t.dispatch (.redirect q) =
      match t.get? q with
      | some target => .push q target
      | none => .deliver (some (if q.toNat < queueCount then .missing q else .outOfRange q)) := by
  rw [dispatch, get?, get]
  by_cases hq : q.toNat < queueCount
  · rw [dif_pos hq, if_pos hq]
    cases t.slots[q.toNat] <;> rfl
  · rw [dif_neg hq, if_neg hq]
    rfl

/-- A redirect comes to a delivery where nobody is registered for its queue. -/
theorem fallback?_dispatch (t : Targets α) (v : Verdict) :
    (t.dispatch v).fallback? = v.queue?.filter fun q => (t.get? q).isNone := by
  cases v with
  | pass => rfl
  | drop => rfl
  | redirect q =>
    rw [dispatch_redirect]
    cases ht : t.get? q with
    | some target =>
      rw [Verdict.queue?, Option.filter_some_neg (by simp [ht])]
      rfl
    | none =>
      rw [Verdict.queue?, Option.filter_some_pos (by simp [ht])]
      split_ifs <;> rfl

theorem isDiscard_dispatch (t : Targets α) (v : Verdict) :
    (t.dispatch v).isDiscard = decide (v = .drop) := by
  cases v with
  | pass => rfl
  | drop => rfl
  | redirect q =>
    rw [dispatch_redirect]
    cases t.get? q <;> rfl

/-- A redirect is a push, or comes to a delivery. -/
theorem toNat_redirect (t : Targets α) (v : Verdict) :
    v.queue?.isSome.toNat =
      (t.dispatch v).isPush.toNat + (t.dispatch v).fallback?.isSome.toNat := by
  cases v with
  | pass => rfl
  | drop => rfl
  | redirect q =>
    rw [dispatch_redirect]
    cases t.get? q with
    | some target => rfl
    | none => dsimp only; split_ifs <;> rfl

/-- A delivery is a pass, or what a redirect came to. -/
theorem toNat_isDeliver (t : Targets α) (v : Verdict) :
    (t.dispatch v).isDeliver.toNat =
      (decide (v = .pass)).toNat + (t.dispatch v).fallback?.isSome.toNat := by
  cases v with
  | pass => rfl
  | drop => rfl
  | redirect q =>
    rw [dispatch_redirect]
    cases t.get? q with
    | some target => rfl
    | none => dsimp only; split_ifs <;> rfl

end Targets

end IngressGate
