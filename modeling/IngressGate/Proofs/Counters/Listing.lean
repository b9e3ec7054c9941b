import Mathlib.Data.List.FinRange
import Mathlib.Data.List.Nodup
import Mathlib.Tactic.Common
import IngressGate.Proofs.Counters
import IngressGate.Proofs.Run
/-!
# The listing of the counters

A listing leaves out the queues that have seen no frame. It looks at three of the four counters of a
queue to tell; the fourth counts the bytes of the frames that the first counts, and so is zero with
it. Whatever was counted, the listing hides nothing but zeros, and each counter that it shows has a
name of its own there (`listing_hidesOnlyZeros`).
-/
namespace IngressGate.Counters

/-! ## The counters one by one -/

/-- The global counters. -/
inductive Total
  | frames
  | passed
  | dropped
  | redirected
  | invalid
  | fallbacks
  | truncated
  deriving DecidableEq

namespace Total

/-- The global counters in the order of a listing. -/
def all : List Total := [frames, passed, dropped, redirected, invalid, fallbacks, truncated]

/-- The name of a global counter. -/
def name : Total → String
  | frames => "frames"
  | passed => "passed"
  | dropped => "dropped"
  | redirected => "redirected"
  | invalid => "invalid"
  | fallbacks => "redirect_fallbacks"
  | truncated => "truncated"

/-- What a global counter has counted. -/
def read (c : Counters) : Total → UInt64
  | frames => c.frames
  | passed => c.passed
  | dropped => c.dropped
  | redirected => c.redirected
  | invalid => c.invalid
  | fallbacks => c.fallbacks
  | truncated => c.truncated

/-- Increases a global counter. -/
def add (c : Counters) (n : UInt64) : Total → Counters
  | frames => { c with frames := c.frames + n }
  | passed => { c with passed := c.passed + n }
  | dropped => { c with dropped := c.dropped + n }
  | redirected => { c with redirected := c.redirected + n }
  | invalid => { c with invalid := c.invalid + n }
  | fallbacks => { c with fallbacks := c.fallbacks + n }
  | truncated => { c with truncated := c.truncated + n }

theorem queues_add (c : Counters) (n : UInt64) (t : Total) : (t.add c n).queues = c.queues := by
  cases t <;> rfl

theorem read_add (c : Counters) (n : UInt64) (t t' : Total) :
    t.read (t'.add c n) = t.read c + if t' = t then n else 0 := by
  cases t <;> cases t' <;> simp [read, add]

end Total

/-- The counters of a queue. -/
inductive Kind
  | frames
  | bytes
  | redirected
  | missingTarget
  deriving DecidableEq

namespace Kind

/-- The counters of a queue in the order of a listing. -/
def all : List Kind := [frames, bytes, redirected, missingTarget]

/-- The name of a counter of the queue with a given number. -/
def name (queue : Nat) : Kind → String
  | frames => s!"queue{queue}_rx_frames"
  | bytes => s!"queue{queue}_rx_bytes"
  | redirected => s!"queue{queue}_redirected"
  | missingTarget => s!"queue{queue}_missing_target"

/-- What a counter of a queue has counted. -/
def read (c : QueueCounters) : Kind → UInt64
  | frames => c.frames
  | bytes => c.bytes
  | redirected => c.redirected
  | missingTarget => c.missingTarget

end Kind

/-- A counter: a global one, or one of a queue. -/
inductive Counter
  | total (t : Total)
  | ofQueue (q : Fin queueCount) (k : Kind)
  deriving DecidableEq

namespace Counter

/-- The name of a counter. -/
def name : Counter → String
  | total t => t.name
  | ofQueue q k => k.name q

/-- What a counter has counted. -/
def read (c : Counters) : Counter → UInt64
  | total t => t.read c
  | ofQueue q k => k.read (c.queues.get q)

end Counter

/-! ## Names are distinct -/

/-- A text is told by what stands before the first character of some kind, and by what stands
behind it. -/
theorem append_cons_inj {α : Type} {a : α} {xs xs' ys ys' : List α} (h : a ∉ xs) (h' : a ∉ xs')
    (heq : xs ++ a :: ys = xs' ++ a :: ys') : xs = xs' ∧ ys = ys' := by
  induction xs generalizing xs' with
  | nil =>
    cases xs' with
    | nil => simpa using heq
    | cons x xs' =>
      obtain ⟨rfl, -⟩ : a = x ∧ _ := by simpa using heq
      exact absurd List.mem_cons_self h'
  | cons x xs ih =>
    cases xs' with
    | nil =>
      obtain ⟨rfl, -⟩ : x = a ∧ _ := by simpa using heq
      exact absurd List.mem_cons_self h
    | cons x' xs' =>
      obtain ⟨rfl, hrest⟩ : x = x' ∧ xs ++ a :: ys = xs' ++ a :: ys' := by simpa using heq
      obtain ⟨rfl, rfl⟩ :=
        ih (fun hmem => h (List.mem_cons_of_mem _ hmem))
          (fun hmem => h' (List.mem_cons_of_mem _ hmem)) hrest
      exact ⟨rfl, rfl⟩

/-- The part of a name that tells the counters of one queue apart. -/
def Kind.label : Kind → List Char
  | frames => "rx_frames".toList
  | bytes => "rx_bytes".toList
  | redirected => "redirected".toList
  | missingTarget => "missing_target".toList

theorem Kind.toList_name (queue : Nat) (k : Kind) :
    (k.name queue).toList = "queue".toList ++ (Nat.toDigits 10 queue ++ '_' :: k.label) := by
  have htext (label : String) : ("queue" ++ toString queue ++ label).toList =
      "queue".toList ++ (Nat.toDigits 10 queue ++ label.toList) := by
    simp only [String.toList_append, Nat.toString_eq_ofList_toDigits, String.toList_ofList,
      List.append_assoc]
  cases k with
  | frames => exact htext "_rx_frames"
  | bytes => exact htext "_rx_bytes"
  | redirected => exact htext "_redirected"
  | missingTarget => exact htext "_missing_target"

theorem Kind.name_inj {q q' : Nat} {k k' : Kind} (h : k.name q = k'.name q') :
    q = q' ∧ k = k' := by
  have hlist := congrArg String.toList h
  rw [toList_name, toList_name, List.append_cancel_left_eq] at hlist
  -- The digits end where the first underscore stands.
  obtain ⟨hdigits, hlabel⟩ :=
    append_cons_inj Nat.underscore_not_in_toDigits Nat.underscore_not_in_toDigits hlist
  have hnumber : q = q' := by
    rw [← @Nat.ofDigitChars_ten_toDigits q, hdigits, Nat.ofDigitChars_ten_toDigits]
  refine ⟨hnumber, ?_⟩
  cases k <;> cases k' <;> first | rfl | exact absurd hlabel (by decide)

theorem Total.name_injective : Function.Injective Total.name := by
  intro t t' h
  cases t <;> cases t' <;> first | rfl | exact absurd h (by decide)

/-- No global counter is named like one of a queue. -/
theorem Total.name_ne (t : Total) (q : Nat) (k : Kind) : t.name ≠ k.name q := by
  intro h
  have hqueue : t.name.toList.head? = some 'q' := by
    rw [h, Kind.toList_name]
    rfl
  have hfirst : t.name.toList.head? ≠ some 'q' := by cases t <;> decide
  exact hfirst hqueue

theorem Counter.name_injective : Function.Injective Counter.name := by
  rintro (t | ⟨q, k⟩) (t' | ⟨q', k'⟩) h
  · exact congrArg total (Total.name_injective h)
  · exact absurd h (t.name_ne q' k')
  · exact absurd h.symm (t'.name_ne q k)
  · obtain ⟨hq, rfl⟩ := Kind.name_inj h
    rw [Fin.ext hq]

/-! ## What is listed -/

/-- The global counters and those of some queues, in the order of a listing. -/
def countersOf (shown : List (Fin queueCount)) : List Counter :=
  Total.all.map .total ++ shown.flatMap fun q => Kind.all.map (.ofQueue q)

/-- The queues that a listing shows, in ascending order. -/
def shown (c : Counters) : List (Fin queueCount) :=
  (List.finRange queueCount).filter fun q => !(c.queues.get q).isQuiet

variable (c : Counters)

theorem mem_countersOf {qs : List (Fin queueCount)} {k : Counter} :
    k ∈ countersOf qs ↔ ∀ q kind, k = .ofQueue q kind → q ∈ qs := by
  cases k with
  | total t => cases t <;> simp [countersOf, Total.all]
  | ofQueue q kind => cases kind <;> simp [countersOf, Kind.all]

theorem nodup_countersOf {qs : List (Fin queueCount)} (h : qs.Nodup) : (countersOf qs).Nodup := by
  refine List.Nodup.append (by decide) ?_ ?_
  · refine List.nodup_flatMap.mpr ⟨fun q _ => by simp [Kind.all], h.imp fun {q q'} hne => ?_⟩
    simp [Function.onFun, List.disjoint_left, Kind.all, hne]
  · simp [List.disjoint_left, Total.all, Kind.all]

theorem nodup_shown : c.shown.Nodup := (List.nodup_finRange _).filter _

theorem pairwise_shown : c.shown.Pairwise (· < ·) := (List.pairwise_lt_finRange _).filter _

theorem mem_shown {q : Fin queueCount} : q ∈ c.shown ↔ (c.queues.get q).isQuiet = false := by
  simp [shown]

theorem ofQueue_eq (q : Fin queueCount) (k : QueueCounters) :
    ofQueue q k =
      if !k.isQuiet then Kind.all.map fun kind => (kind.name q, kind.read k) else [] := by
  rw [ofQueue]
  cases k.isQuiet <;> rfl

theorem flatMap_filter {α β : Type} (p : α → Bool) (f : α → List β) (xs : List α) :
    (xs.filter p).flatMap f = xs.flatMap fun x => if p x then f x else [] := by
  induction xs with
  | nil => rfl
  | cons x xs ih => cases hx : p x <;> simp [hx, ih]

/-- A listing names each counter that it shows, with what it has counted. -/
theorem listing_eq : c.listing = (countersOf c.shown).map fun k => (k.name, k.read c) := by
  rw [countersOf, List.map_append, List.map_flatMap, shown, flatMap_filter, listing,
    ← List.map_coe_finRange_eq_range, List.flatMap_map]
  congr 1
  refine List.flatMap_congr fun q _ => ?_
  rw [Vector.getElem?_eq_getElem q.isLt]
  exact ofQueue_eq q (c.queues.get q)

theorem nodup_names : (c.listing.map Prod.fst).Nodup := by
  rw [listing_eq, List.map_map]
  exact (nodup_countersOf c.nodup_shown).map Counter.name_injective

/-- A counter that is listed is listed once. -/
theorem filter_listing {k : Counter} (h : k ∈ countersOf c.shown) :
    c.listing.filter (·.1 = k.name) = [(k.name, k.read c)] := by
  have hone : (countersOf c.shown).filter (· = k) = [k] := by
    rw [List.filter_eq, List.count_eq_one_of_mem (nodup_countersOf c.nodup_shown) h]
    rfl
  rw [listing_eq, List.filter_map]
  simp only [Function.comp_def, Counter.name_injective.eq_iff, hone]
  rfl

/-! ## What was counted -/

/-- A use of the counters. -/
inductive Use
  | arrive (queue : UInt32) (bytes : UInt64)
  | verdict (v : Verdict)
  | fallback (queue : UInt32)
  | add (t : Total) (n : UInt64)

/-- The counters after a use. -/
def next : Use → Counters
  | .arrive queue bytes => c.arrive queue bytes
  | .verdict v => c.addVerdict v
  | .fallback queue => c.addFallback queue
  | .add t n => t.add c n

/-- The counters after some uses, of which the first found them fresh. -/
def after (us : List Use) : Counters := Run.after next {} us

namespace Counter

/-- What a use adds to a counter. -/
def amount : Counter → Use → Nat
  | total t, .add t' n => if t' = t then n.toNat else 0
  | total .frames, .verdict _ => 1
  | total .passed, .verdict v => if v = .pass then 1 else 0
  | total .dropped, .verdict v => if v = .drop then 1 else 0
  | total .redirected, .verdict v => if v.queue?.isSome then 1 else 0
  | total .fallbacks, .fallback _ => 1
  | ofQueue q .frames, .arrive q' _ => if q'.toNat = q.val then 1 else 0
  | ofQueue q .bytes, .arrive q' n => if q'.toNat = q.val then n.toNat else 0
  | ofQueue q .redirected, .verdict v => if v.queue?.any fun q' => q'.toNat = q.val then 1 else 0
  | ofQueue q .missingTarget, .fallback q' => if q'.toNat = q.val then 1 else 0
  | _, _ => 0

/-- The count of a counter over some uses, however large. -/
def tally (k : Counter) (us : List Use) : Nat := (us.map k.amount).sum

theorem read_total_next (t : Total) (u : Use) :
    (total t).read (c.next u) = (total t).read c + .ofNat ((total t).amount u) := by
  cases u with
  | arrive queue bytes =>
    rw [next, arrive, modifyQueue_eq]
    cases t <;> simp [read, Total.read, amount]
  | verdict v =>
    rw [next, addVerdict_eq]
    cases t <;> simp [read, Total.read, amount, apply_ite UInt64.ofNat]
  | fallback queue =>
    rw [next, addFallback_eq]
    cases t <;> simp [read, Total.read, amount]
  | add t' n =>
    rw [next, read, Total.read_add]
    simp [read, amount, apply_ite UInt64.ofNat]

theorem read_ofQueue_next (q : Fin queueCount) (k : Kind) (u : Use) :
    (ofQueue q k).read (c.next u) = (ofQueue q k).read c + .ofNat ((ofQueue q k).amount u) := by
  have hget (c : Counters) : c.queues.get q = c.queues[q.val] := rfl
  cases u with
  | arrive queue bytes =>
    simp only [next, read, hget, getElem_arrive q.isLt]
    cases k <;> simp [Kind.read, amount, apply_ite UInt64.ofNat]
  | verdict v =>
    simp only [next, read, hget, getElem_addVerdict q.isLt]
    cases k <;> simp [Kind.read, amount, apply_ite UInt64.ofNat]
  | fallback queue =>
    simp only [next, read, hget, getElem_addFallback q.isLt]
    cases k <;> simp [Kind.read, amount, apply_ite UInt64.ofNat]
  | add t n =>
    simp only [next, read, Total.queues_add]
    cases k <;> simp [amount]

/-- What a use adds to each of the counters. -/
theorem read_next (k : Counter) (u : Use) : k.read (c.next u) = k.read c + .ofNat (k.amount u) := by
  cases k with
  | total t => exact read_total_next c t u
  | ofQueue q k => exact read_ofQueue_next c q k u

theorem read_fresh (k : Counter) : k.read {} = 0 := by
  cases k with
  | total t => cases t <;> rfl
  | ofQueue q k =>
    have hget : ({} : Counters).queues.get q = {} := Vector.getElem_replicate q.isLt
    rw [read, hget]
    cases k <;> rfl

/-- Every counter has its count, up to 64 bits. -/
theorem read_after (k : Counter) (us : List Use) : k.read (after us) = .ofNat (k.tally us) := by
  rw [after, Run.summed_uses k.read (fun c u => read_next c k u), read_fresh, UInt64.zero_add,
    tally]

/-- Where no frames arrived, no bytes did. -/
theorem tally_bytes {q : Fin queueCount} {us : List Use} (h : (ofQueue q .frames).tally us = 0) :
    (ofQueue q .bytes).tally us = 0 := by
  rw [tally, List.sum_eq_zero_iff_forall_eq_nat, List.forall_mem_map] at h ⊢
  intro u hu
  have hframes := h u hu
  cases u with
  | arrive queue bytes =>
    simp only [amount] at hframes ⊢
    split_ifs at hframes ⊢
    rfl
  | verdict | fallback | add => rfl

end Counter

/-! ## Nothing but zeros is hidden -/

/-- A listing of counters that have counted what they should: it shows the global counters, and then
in ascending order the queues of which not all counters are zero. -/
structure HidesOnlyZeros (c : Counters) (count : Counter → Nat) : Prop where
  toNat_read : ∀ k : Counter, (k.read c).toNat = count k
  listing_eq : ∃ shown : List (Fin queueCount), shown.Pairwise (· < ·) ∧
    c.listing = (countersOf shown).map (fun k : Counter => (k.name, k.read c)) ∧
    ∀ q ∉ shown, ∀ kind, (Counter.ofQueue q kind).read c = 0
  nodup_names : (c.listing.map Prod.fst).Nodup
  /-- The listing has one entry under the name of each counter that is not zero. -/
  listed_once : ∀ k : Counter, k.read c ≠ 0 → c.listing.filter (·.1 = k.name) = [(k.name, k.read c)]

/-- **The listing hides nothing but zeros**, whatever was counted, as long as no count has outgrown
its counter. -/
theorem listing_hidesOnlyZeros (us : List Use) (h : ∀ k : Counter, k.tally us < 2 ^ 64) :
    HidesOnlyZeros (after us) (·.tally us) := by
  have hread (k : Counter) : (k.read (after us)).toNat = k.tally us := by
    rw [Counter.read_after, UInt64.toNat_ofNat', Nat.mod_eq_of_lt (h k)]
  have hhidden : ∀ q ∉ (after us).shown, ∀ kind, (Counter.ofQueue q kind).read (after us) = 0 := by
    intro q hq
    rw [mem_shown, Bool.not_eq_false, QueueCounters.isQuiet, decide_eq_true_iff] at hq
    obtain ⟨hframes, hredirected, hmissing⟩ := hq
    have hnone : (Counter.ofQueue q .frames).tally us = 0 := by
      rw [← hread, Counter.read, Kind.read, hframes]
      rfl
    have hbytes : (Counter.ofQueue q .bytes).read (after us) = 0 := by
      rw [Counter.read_after, Counter.tally_bytes hnone]
      rfl
    rintro (_ | _ | _ | _)
    · exact hframes
    · exact hbytes
    · exact hredirected
    · exact hmissing
  refine ⟨hread, ⟨_, pairwise_shown _, listing_eq _, hhidden⟩, nodup_names _, fun k hk => ?_⟩
  refine filter_listing _ (mem_countersOf.mpr fun q kind hkind => ?_)
  by_contra hq
  rw [hkind] at hk
  exact hk (hhidden q hq kind)

/-- A frame without bytes, bytes for a queue that is none, and a counter increased alone. -/
def mixedUses : List Use :=
  [.arrive 3 0, .arrive 500 64, .verdict (.redirect 3), .fallback 63, .add .truncated 1]

theorem listing_hidesOnlyZeros_mixedUses :
    (∀ k : Counter, k.tally mixedUses < 2 ^ 64) ∧
      HidesOnlyZeros (after mixedUses) (·.tally mixedUses) := by
  have hbound (k : Counter) : k.tally mixedUses < 2 ^ 64 := by
    cases k with
    | total t => cases t <;> decide
    | ofQueue q kind =>
      revert q
      cases kind <;> decide
  exact ⟨hbound, listing_hidesOnlyZeros mixedUses hbound⟩

example : (after mixedUses).listing =
    [("frames", 1), ("passed", 0), ("dropped", 0), ("redirected", 1), ("invalid", 0),
      ("redirect_fallbacks", 1), ("truncated", 1), ("queue3_rx_frames", 1), ("queue3_rx_bytes", 0),
      ("queue3_redirected", 1), ("queue3_missing_target", 0), ("queue63_rx_frames", 0),
      ("queue63_rx_bytes", 0), ("queue63_redirected", 0), ("queue63_missing_target", 1)] := by
  decide +kernel

end IngressGate.Counters
