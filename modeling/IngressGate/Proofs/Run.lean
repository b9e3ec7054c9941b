import Mathlib.Algebra.BigOperators.Group.List.Basic
import Mathlib.Algebra.GroupWithZero.Nat
import Mathlib.Tactic.Common
/-!
# Runs of a system

A system takes one use after another, each of which leaves it in a next state. What holds of one use
holds of a whole run: an invariant that each use keeps is kept by all of them; where the content of
the state is a queue, what was in it and what enters on the way is what leaves it, in order,
followed by what is still in it (`conserved`); and likewise for what is only counted (`balanced`),
as long as the count stays within a bound. What is the case since some use, until another makes an
end of it, is told by looking back over the run (`Lasts`).
-/
namespace IngressGate.Run

variable {σ υ : Type} (next : σ → υ → σ)

/-- The state after some uses. -/
def after (s : σ) (us : List υ) : σ := us.foldl next s

/-- The uses in a run, each with the state that it finds. -/
def moments : σ → List υ → List (σ × υ)
  | _, [] => []
  | s, u :: us => (s, u) :: moments (next s u) us

@[simp] theorem after_nil (s : σ) : after next s [] = s := rfl

@[simp] theorem after_cons (s : σ) (u : υ) (us : List υ) :
    after next s (u :: us) = after next (next s u) us := rfl

theorem after_append (s : σ) (us us' : List υ) :
    after next s (us ++ us') = after next (after next s us) us' := List.foldl_append

@[simp] theorem moments_nil (s : σ) : moments next s ([] : List υ) = [] := rfl

@[simp] theorem moments_cons (s : σ) (u : υ) (us : List υ) :
    moments next s (u :: us) = (s, u) :: moments next (next s u) us := rfl

@[simp] theorem map_snd_moments (s : σ) (us : List υ) : (moments next s us).map Prod.snd = us := by
  induction us generalizing s with
  | nil => rfl
  | cons u us ih => simp [ih]

variable {next} {s : σ} (Inv : σ → Prop)

/-- What one sees of the state changes over a run as it does with each use. -/
theorem view_after {τ : Type} (view : σ → τ) {act : τ → υ → τ}
    (hstep : ∀ s u, view (next s u) = act (view s) u) (s : σ) (us : List υ) :
    view (after next s us) = us.foldl act (view s) :=
  (List.foldl_hom view fun s u => (hstep s u).symm).symm

/-- What every use keeps is kept by every run. -/
theorem invariant_after (hkeep : ∀ s u, Inv s → Inv (next s u)) (hs : Inv s) (us : List υ) :
    Inv (after next s us) := by
  induction us generalizing s with
  | nil => exact hs
  | cons u us ih => exact ih (hkeep s u hs)

/-- **Nothing is lost, doubled or reordered** in a run if it is not in any single use. -/
theorem conserved {α : Type} (content : σ → List α) {entered left : σ × υ → List α}
    (hkeep : ∀ s u, Inv s → Inv (next s u))
    (hstep : ∀ s u, Inv s → content s ++ entered (s, u) = left (s, u) ++ content (next s u))
    (hs : Inv s) (us : List υ) :
    content s ++ (moments next s us).flatMap entered =
      (moments next s us).flatMap left ++ content (after next s us) := by
  induction us generalizing s with
  | nil => simp
  | cons u us ih =>
    calc content s ++ (moments next s (u :: us)).flatMap entered
        = content s ++ entered (s, u) ++ (moments next (next s u) us).flatMap entered := by simp
      _ = left (s, u) ++ (content (next s u) ++ (moments next (next s u) us).flatMap entered) := by
        rw [hstep s u hs, List.append_assoc]
      _ = (moments next s (u :: us)).flatMap left ++ content (after next s (u :: us)) := by
        rw [ih (hkeep s u hs)]
        simp

/-- What is counted balances over a run if it does in every use that stays below the bound. -/
theorem balanced (amount : σ → Nat) {gain loss : σ × υ → Nat} {bound : Nat}
    (hstep : ∀ s u, amount s + gain (s, u) < bound →
      amount s + gain (s, u) = loss (s, u) + amount (next s u))
    {us : List υ} (hbound : amount s + ((moments next s us).map gain).sum < bound) :
    amount s + ((moments next s us).map gain).sum =
      ((moments next s us).map loss).sum + amount (after next s us) := by
  induction us generalizing s with
  | nil => simp
  | cons u us ih =>
    simp only [moments_cons, List.map_cons, List.sum_cons, after_cons] at hbound ⊢
    have hone := hstep s u (by omega)
    have hrest := ih (s := next s u) (by omega)
    omega

theorem sum_toNat {α : Type} (p : α → Bool) (xs : List α) :
    (xs.map fun x => (p x).toNat).sum = xs.countP p := by
  induction xs with
  | nil => rfl
  | cons x xs ih =>
    rw [List.map_cons, List.sum_cons, ih, List.countP_cons, Nat.add_comm]
    cases p x <;> rfl

/-- A counter that each use of some kind moves by one has counted these uses. -/
theorem counted (counter : σ → UInt64) {counts : σ × υ → Bool}
    (hkeep : ∀ s u, Inv s → Inv (next s u))
    (hstep : ∀ s u, Inv s →
      counter (next s u) = counter s + if counts (s, u) then 1 else 0)
    (hs : Inv s) (us : List υ) :
    counter (after next s us) = counter s + UInt64.ofNat ((moments next s us).countP counts) := by
  induction us generalizing s with
  | nil => simp
  | cons u us ih =>
    rw [after_cons, ih (hkeep s u hs), hstep s u hs, moments_cons, List.countP_cons]
    cases counts (s, u) with
    | false => simp
    | true =>
      have hone (n : Nat) : UInt64.ofNat (n + 1) = 1 + UInt64.ofNat n := by
        rw [UInt64.ofNat_add, UInt64.add_comm]
        rfl
      rw [if_pos rfl, if_pos rfl, hone, UInt64.add_assoc]

/-- The same of a counter that looks at the uses alone. -/
theorem counted_uses (counter : σ → UInt64) {counts : υ → Bool}
    (hstep : ∀ s u, counter (next s u) = counter s + if counts u then 1 else 0) (s : σ)
    (us : List υ) : counter (after next s us) = counter s + UInt64.ofNat (us.countP counts) := by
  have hrun : counter (after next s us) =
      counter s + UInt64.ofNat ((moments next s us).countP fun m => counts m.2) :=
    counted (fun _ => True) counter (fun _ _ _ => trivial) (fun s u _ => hstep s u) trivial us
  have hcount : (moments next s us).countP (fun m => counts m.2) =
      ((moments next s us).map Prod.snd).countP counts := List.countP_map.symm
  rw [hrun, hcount, map_snd_moments]

/-- A counter that each use moves by some amount has summed up the amounts. -/
theorem summed_uses (counter : σ → UInt64) {amount : υ → Nat}
    (hstep : ∀ s u, counter (next s u) = counter s + .ofNat (amount u)) (s : σ) (us : List υ) :
    counter (after next s us) = counter s + UInt64.ofNat (us.map amount).sum := by
  induction us generalizing s with
  | nil => simp
  | cons u us ih =>
    rw [after_cons, ih, hstep, List.map_cons, List.sum_cons, UInt64.ofNat_add, UInt64.add_assoc]

/-- Where each use of one kind is of one of two others, so are their numbers. -/
theorem countP_eq_add {α : Type} {p q r : α → Bool}
    (h : ∀ x, (p x).toNat = (q x).toNat + (r x).toNat) (xs : List α) :
    xs.countP p = xs.countP q + xs.countP r := by
  simp only [← sum_toNat, h, List.sum_map_add]

/-! ## What lasts -/

/-- Something began with one of the uses, and none after it made an end of it. -/
def Lasts {α : Type} (begins ends : α → Prop) (xs : List α) : Prop :=
  ∃ older x newer, xs = older ++ x :: newer ∧ begins x ∧ ∀ y ∈ newer, ¬ ends y

section Lasts
variable {α : Type} {begins ends : α → Prop}

theorem not_lasts_nil : ¬ Lasts begins ends [] := by
  rintro ⟨older, x, newer, h, -⟩
  simp at h

/-- With one more use something begins, or lasts on. -/
theorem lasts_snoc {xs : List α} {x : α} :
    Lasts begins ends (xs ++ [x]) ↔ begins x ∨ ¬ ends x ∧ Lasts begins ends xs := by
  constructor
  · rintro ⟨older, y, newer, heq, hbegins, hnewer⟩
    -- It began with the last use, or with one of those before it.
    rcases List.eq_nil_or_concat newer with rfl | ⟨newer, z, rfl⟩
    · obtain ⟨-, hx⟩ := List.append_inj' heq rfl
      obtain rfl : x = y := by simpa using hx
      exact .inl hbegins
    · obtain ⟨hxs, hx⟩ : xs = older ++ y :: newer ∧ [x] = [z] :=
        List.append_inj' (by simpa using heq) rfl
      obtain rfl : x = z := by simpa using hx
      refine .inr ⟨hnewer x (by simp), older, y, newer, hxs, hbegins, fun y' hy' => ?_⟩
      exact hnewer y' (by simp [hy'])
  · rintro (hbegins | ⟨hx, older, y, newer, rfl, hbegins, hnewer⟩)
    · exact ⟨xs, x, [], rfl, hbegins, by simp⟩
    · refine ⟨older, y, newer ++ [x], by simp, hbegins, fun y' hy' => ?_⟩
      rcases List.mem_append.mp hy' with hy' | hy'
      · exact hnewer y' hy'
      · rw [List.mem_singleton.mp hy']
        exact hx

end Lasts

end IngressGate.Run
