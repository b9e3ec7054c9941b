import IngressGate.Proofs.Frame.Headers
import IngressGate.Proofs.Frame.Ipv6
/-!
# How far readers look

A reader moves forward and never past the end of the frame. A `Frugal` reader moreover needs no byte
behind the place that it reaches: where the frame ends there, it does the same. Together with
`Reader.Stable` this says that the bytes behind the headers that have been read do not matter.
-/
namespace IngressGate

open Bytes

namespace Cursor

/-- The offset at which the frame ends. -/
def stop (c : Cursor) : Nat := c.position + c.remaining

@[simp] theorem stop_ofFrame (f : List UInt8) : (ofFrame f).stop = f.length := Nat.zero_add _

@[simp] theorem position_extend (c : Cursor) (x : List UInt8) :
    (c.extend x).position = c.position := rfl

theorem stop_advance {c : Cursor} {n : Nat} (h : n ≤ c.remaining) :
    (c.advance n).stop = c.stop := by
  have hposition : (c.advance n).position = c.position + n := rfl
  rw [stop, stop, remaining_advance, hposition]
  omega

end Cursor

namespace Reader
variable {α β : Type} {r : Reader α} {k : α → Reader β}

/-! ## Moving forward -/

/-- The reader moves forward, and knows where the frame ends. -/
structure Advances (r : Reader α) : Prop where
  ok : ∀ {c a c'}, r c = .ok a c' → c.position ≤ c'.position ∧ c'.stop = c.stop
  error : ∀ {c e c'}, r c = .error e c' → c.position ≤ c'.position

namespace Advances

theorem pure (a : α) : Advances (pure a : Reader α) where
  ok h := by cases h; exact ⟨Nat.le_refl _, rfl⟩
  error h := by cases h

theorem reject (e : HeaderError) : Advances (reject e : Reader α) where
  ok h := by cases h
  error h := by cases h; exact Nat.le_refl _

theorem bind (hr : Advances r) (hk : ∀ a, Advances (k a)) : Advances (r >>= k) where
  ok {c b c'} h := by
    cases hc : r c with
    | ok a d =>
      rw [bind_of_ok hc] at h
      obtain ⟨hle, hstop⟩ := hr.ok hc
      obtain ⟨hle', hstop'⟩ := (hk a).ok h
      exact ⟨Nat.le_trans hle hle', hstop'.trans hstop⟩
    | error e d =>
      rw [bind_of_error hc] at h
      cases h
  error {c e c'} h := by
    cases hc : r c with
    | ok a d =>
      rw [bind_of_ok hc] at h
      exact Nat.le_trans (hr.ok hc).1 ((hk a).error h)
    | error e d =>
      rw [bind_of_error hc] at h
      cases h
      exact hr.error hc

theorem peek (header : String) (n : Nat) : Advances (peek header n) where
  ok {c a c'} h := by
    by_cases hn : n ≤ c.remaining
    · rw [peek_of_le hn] at h
      cases h
      exact ⟨Nat.le_refl _, rfl⟩
    · rw [peek_of_lt (Nat.lt_of_not_le hn)] at h
      cases h
  error {c e c'} h := by
    by_cases hn : n ≤ c.remaining
    · rw [peek_of_le hn] at h
      cases h
    · rw [peek_of_lt (Nat.lt_of_not_le hn)] at h
      cases h
      exact Nat.le_refl _

theorem skip (header : String) (n : Nat) : Advances (skip header n) where
  ok {c a c'} h := by
    by_cases hn : n ≤ c.remaining
    · rw [skip_of_le hn] at h
      cases h
      exact ⟨Nat.le_add_right _ _, Cursor.stop_advance hn⟩
    · rw [skip_of_lt (Nat.lt_of_not_le hn)] at h
      cases h
  error {c e c'} h := by
    by_cases hn : n ≤ c.remaining
    · rw [skip_of_le hn] at h
      cases h
    · rw [skip_of_lt (Nat.lt_of_not_le hn)] at h
      cases h
      exact Nat.le_refl _

end Advances

/-! ## Looking no further -/

namespace Stable
variable {c c' : Cursor} {x : List UInt8} {a : α} {e : HeaderError}

/-- What is read on a longer frame is read on the frame itself, unless it is cut short there. -/
theorem ok_of_extend (hr : Stable r) (hshort : ∀ {e d}, r c = .error e d → isShortage e = false)
    (h : r (c.extend x) = .ok a c') : ∃ d, r c = .ok a d ∧ d.extend x = c' := by
  cases hc : r c with
  | ok b d =>
    have happend := hr.ok hc x
    rw [h] at happend
    cases happend
    exact ⟨d, rfl, rfl⟩
  | error e d =>
    have happend := hr.error hc (hshort hc) x
    rw [h] at happend
    cases happend

theorem error_of_extend (hr : Stable r)
    (hshort : ∀ {e d}, r c = .error e d → isShortage e = false)
    (h : r (c.extend x) = .error e c') : ∃ d, r c = .error e d ∧ d.extend x = c' := by
  cases hc : r c with
  | ok b d =>
    have happend := hr.ok hc x
    rw [h] at happend
    cases happend
  | error e' d =>
    have happend := hr.error hc (hshort hc) x
    rw [h] at happend
    cases happend
    exact ⟨d, rfl, rfl⟩

end Stable

/-- The reader needs no byte behind the place that it reaches. -/
structure Frugal (r : Reader α) : Prop extends Advances r where
  ok_of_extend : ∀ {c x a c'}, r (c.extend x) = .ok a c' → c'.position ≤ c.stop →
    ∃ d, r c = .ok a d ∧ d.extend x = c'
  error_of_extend : ∀ {c x e c'}, r (c.extend x) = .error e c' → isShortage e = false →
    c'.position ≤ c.stop → ∃ d, r c = .error e d ∧ d.extend x = c'

namespace Frugal

theorem pure (a : α) : Frugal (pure a : Reader α) where
  toAdvances := .pure a
  ok_of_extend h _ := by cases h; exact ⟨_, rfl, rfl⟩
  error_of_extend h := by cases h

theorem reject (e : HeaderError) : Frugal (reject e : Reader α) where
  toAdvances := .reject e
  ok_of_extend h := by cases h
  error_of_extend h _ _ := by cases h; exact ⟨_, rfl, rfl⟩

theorem bind (hr : Frugal r) (hk : ∀ a, Frugal (k a)) : Frugal (r >>= k) where
  toAdvances := hr.toAdvances.bind fun a => (hk a).toAdvances
  ok_of_extend {c x b c'} h hle := by
    -- The first reader has not gone beyond the place that the second one reaches.
    cases hc : r (c.extend x) with
    | ok a e =>
      rw [bind_of_ok hc] at h
      have hmid : e.position ≤ c.stop := Nat.le_trans ((hk a).ok h).1 hle
      obtain ⟨d, hd, rfl⟩ := hr.ok_of_extend hc hmid
      have hstop : c'.position ≤ d.stop := (hr.ok hd).2 ▸ hle
      obtain ⟨d', hd', rfl⟩ := (hk a).ok_of_extend h hstop
      exact ⟨d', by rw [bind_of_ok hd, hd'], rfl⟩
    | error e d =>
      rw [bind_of_error hc] at h
      cases h
  error_of_extend {c x e c'} h he hle := by
    cases hc : r (c.extend x) with
    | ok a e' =>
      rw [bind_of_ok hc] at h
      have hmid : e'.position ≤ c.stop := Nat.le_trans ((hk a).error h) hle
      obtain ⟨d, hd, rfl⟩ := hr.ok_of_extend hc hmid
      have hstop : c'.position ≤ d.stop := (hr.ok hd).2 ▸ hle
      obtain ⟨d', hd', rfl⟩ := (hk a).error_of_extend h he hstop
      exact ⟨d', by rw [bind_of_ok hd, hd'], rfl⟩
    | error e' d =>
      rw [bind_of_error hc] at h
      cases h
      obtain ⟨d', hd', rfl⟩ := hr.error_of_extend hc he hle
      exact ⟨d', bind_of_error hd', rfl⟩

/-- Looking at bytes is frugal if the reader then moves over all of them. -/
theorem peek_skip {n : Nat} (header : String) {length : Vector UInt8 n → Nat}
    (hlength : ∀ b, n ≤ length b) (value : Vector UInt8 n → α) :
    Frugal (do
      let b ← peek header n
      skip header (length b)
      return value b) where
  toAdvances := (Advances.peek header n).bind fun b =>
    (Advances.skip header (length b)).bind fun _ => .pure (value b)
  ok_of_extend {c x a c'} h hle := by
    by_cases hn : n ≤ (c.extend x).remaining
    · rw [bind_of_ok (peek_of_le hn)] at h
      generalize hb : (c.extend x).front n hn = b at h
      by_cases hm : length b ≤ (c.extend x).remaining
      · rw [bind_of_ok (skip_of_le hm), pure_apply] at h
        cases h
        have hrem : length b ≤ c.remaining := Nat.le_of_add_le_add_left hle
        have hn' : n ≤ c.remaining := Nat.le_trans (hlength b) hrem
        refine ⟨c.advance (length b), ?_, (Cursor.advance_extend hrem x).symm⟩
        rw [Cursor.front_extend hn'] at hb
        rw [bind_of_ok (peek_of_le hn'), hb, bind_of_ok (skip_of_le hrem), pure_apply]
      · rw [bind_of_error (skip_of_lt (Nat.lt_of_not_le hm))] at h
        cases h
    · rw [bind_of_error (peek_of_lt (Nat.lt_of_not_le hn))] at h
      cases h
  error_of_extend {c x e c'} h he hle := by
    -- All errors are shortages.
    by_cases hn : n ≤ (c.extend x).remaining
    · rw [bind_of_ok (peek_of_le hn)] at h
      generalize (c.extend x).front n hn = b at h
      by_cases hm : length b ≤ (c.extend x).remaining
      · rw [bind_of_ok (skip_of_le hm), pure_apply] at h
        cases h
      · rw [bind_of_error (skip_of_lt (Nat.lt_of_not_le hm))] at h
        cases h
        cases he
    · rw [bind_of_error (peek_of_lt (Nat.lt_of_not_le hn))] at h
      cases h
      cases he

theorem take (header : String) (n : Nat) : Frugal (take header n) := by
  rw [take_eq]
  exact peek_skip header (fun _ => Nat.le_refl n) id

end Frugal

end Reader

/-! ## The readers of headers -/

namespace Ethernet

theorem frugal_read : Reader.Frugal read := by
  refine (Reader.Frugal.take "ethernet" 14).bind fun b => ?_
  dsimp only
  split
  · exact (Reader.Frugal.take "vlan" 4).bind fun _ => Reader.Frugal.pure _
  · exact Reader.Frugal.pure _

end Ethernet

namespace Ipv4
variable {c c' : Cursor} {x : List UInt8} {h : Header} {e : HeaderError}

theorem advances_read : Reader.Advances read := by
  refine (Reader.Advances.peek "ipv4" 20).bind fun b => ?_
  dsimp only
  split
  · exact Reader.Advances.reject _
  split
  · exact Reader.Advances.reject _
  · exact (Reader.Advances.skip "ipv4" _).bind fun _ => Reader.Advances.pure _

/-- Where the fixed part is there, and the options are unless the fixed part is rejected, nothing is
cut short. -/
theorem read_not_short (h20 : 20 ≤ c.remaining)
    (h : 4 * ((byteAt c.rest 0).toNat % 16) ≤ c.remaining ∨ (byteAt c.rest 0).toNat / 16 ≠ 4 ∨
      (byteAt c.rest 0).toNat % 16 < 5)
    {d : Cursor} (hread : read c = .error e d) : Reader.isShortage e = false := by
  rw [read_eq, if_neg (Nat.not_lt_of_le h20)] at hread
  by_cases hversion : (byteAt c.rest 0).toNat / 16 ≠ 4
  · rw [if_pos hversion] at hread
    cases hread
    rfl
  rw [if_neg hversion] at hread
  by_cases hwords : (byteAt c.rest 0).toNat % 16 < 5
  · rw [if_pos hwords] at hread
    cases hread
    rfl
  rw [if_neg hwords] at hread
  have hlength : ¬ c.remaining < 4 * ((byteAt c.rest 0).toNat % 16) := by omega
  rw [if_neg hlength] at hread
  cases hread

/-- What a header that is accepted says about its own length. -/
theorem read_ok (hread : read c = .ok h c') :
    ∃ n, 20 ≤ n ∧ n = 4 * ((byteAt c.rest 0).toNat % 16) ∧ c' = c.advance n := by
  rw [read_eq] at hread
  split at hread
  · cases hread
  split at hread
  · cases hread
  split at hread
  · cases hread
  split at hread
  · cases hread
  · next hwords _ =>
    cases hread
    exact ⟨_, by omega, rfl, rfl⟩

/-- What is rejected has been looked at as far as its fixed part goes. -/
theorem read_rejected (hread : read c = .error e c') (he : Reader.isShortage e = false) :
    (byteAt c.rest 0).toNat / 16 ≠ 4 ∨ (byteAt c.rest 0).toNat % 16 < 5 := by
  rw [read_eq] at hread
  split at hread
  · cases hread
    cases he
  split at hread
  · next hversion => exact .inl hversion
  split at hread
  · next hwords => exact .inr hwords
  split at hread
  · cases hread
    cases he
  · cases hread

/-- A header that is accepted is accepted where the frame ends with it. -/
theorem read_ok_of_extend (hread : read (c.extend x) = .ok h c') (hle : c'.position ≤ c.stop) :
    ∃ d, read c = .ok h d ∧ d.extend x = c' := by
  obtain ⟨n, h20, hn, rfl⟩ := read_ok hread
  have hrem : n ≤ c.remaining := Nat.le_of_add_le_add_left hle
  have hfirst : byteAt (c.extend x).rest 0 = byteAt c.rest 0 :=
    byteAt_append_left (Nat.lt_of_lt_of_le (by omega) hrem)
  rw [hfirst] at hn
  exact stable_read.ok_of_extend (read_not_short (by omega) (.inl (by omega))) hread

/-- A header that is rejected is rejected where the frame ends with its fixed part. -/
theorem read_error_of_extend (hread : read (c.extend x) = .error e c')
    (he : Reader.isShortage e = false) (hle : c.position + 20 ≤ c.stop) :
    ∃ d, read c = .error e d ∧ d.extend x = c' := by
  have h20 : 20 ≤ c.remaining := Nat.le_of_add_le_add_left hle
  have hfirst : byteAt (c.extend x).rest 0 = byteAt c.rest 0 :=
    byteAt_append_left (Nat.lt_of_lt_of_le (by omega) h20)
  have hrejected := read_rejected hread he
  rw [hfirst] at hrejected
  exact stable_read.error_of_extend (read_not_short h20 (.inr hrejected)) hread

end Ipv4

namespace Ipv6.Chain
variable (budget : Nat) (type : UInt8) (seen : Chain)

theorem stable_readSized (length : UInt8 → Nat) : Reader.Stable (readSized length) :=
  (Reader.Stable.peek "ipv6 extension" 2).bind fun b =>
    (Reader.Stable.skip "ipv6 extension" (length b[1])).bind fun _ => Reader.Stable.pure _

theorem frugal_readSized {length : UInt8 → Nat} (h : ∀ n, 2 ≤ length n) :
    Reader.Frugal (readSized length) :=
  Reader.Frugal.peek_skip "ipv6 extension" (fun b => h b[1]) fun b => b[0]

theorem stable_readFragment : Reader.Stable readFragment :=
  (Reader.Stable.take "ipv6 fragment" 8).bind fun _ => Reader.Stable.pure _

theorem frugal_readFragment : Reader.Frugal readFragment :=
  (Reader.Frugal.take "ipv6 fragment" 8).bind fun _ => Reader.Frugal.pure _

theorem stable_read : Reader.Stable (read budget type seen) := by
  induction budget generalizing type seen with
  | zero =>
    cases hlink : Link.ofType type <;> simp only [read.eq_def, hlink]
    case upperLayer => exact Reader.Stable.pure _
    all_goals exact Reader.Stable.reject _
  | succ budget ih =>
    cases hlink : Link.ofType type <;> simp only [read, hlink]
    case upperLayer => exact Reader.Stable.pure _
    case unsupported => exact Reader.Stable.reject _
    case fragment => exact stable_readFragment.bind fun _ => ih _ _
    all_goals exact (stable_readSized _).bind fun _ => ih _ _

theorem frugal_read : Reader.Frugal (read budget type seen) := by
  have hoptions : ∀ n, 2 ≤ optionsLength n := fun n => by rw [optionsLength]; omega
  have hauthentication : ∀ n, 2 ≤ authenticationLength n := fun n => by
    rw [authenticationLength]; omega
  induction budget generalizing type seen with
  | zero =>
    cases hlink : Link.ofType type <;> simp only [read.eq_def, hlink]
    case upperLayer => exact Reader.Frugal.pure _
    all_goals exact Reader.Frugal.reject _
  | succ budget ih =>
    cases hlink : Link.ofType type <;> simp only [read, hlink]
    case upperLayer => exact Reader.Frugal.pure _
    case unsupported => exact Reader.Frugal.reject _
    case fragment => exact frugal_readFragment.bind fun _ => ih _ _
    case options => exact (frugal_readSized hoptions).bind fun _ => ih _ _
    case authentication => exact (frugal_readSized hauthentication).bind fun _ => ih _ _

end Ipv6.Chain

namespace Ipv6

theorem stable_read : Reader.Stable read := by
  refine (Reader.Stable.take "ipv6" 40).bind fun b => ?_
  dsimp only
  split
  · exact Reader.Stable.reject _
  · exact (Chain.stable_read _ _ _).bind fun _ => Reader.Stable.pure _

theorem frugal_read : Reader.Frugal read := by
  refine (Reader.Frugal.take "ipv6" 40).bind fun b => ?_
  dsimp only
  split
  · exact Reader.Frugal.reject _
  · exact (Chain.frugal_read _ _ _).bind fun _ => Reader.Frugal.pure _

end Ipv6

namespace Tcp

theorem frugal_read : Reader.Frugal read := by
  refine (Reader.Frugal.take "tcp" 20).bind fun b => ?_
  dsimp only
  split
  · exact Reader.Frugal.reject _
  · exact Reader.Frugal.pure _

end Tcp

namespace Udp

theorem frugal_read : Reader.Frugal read :=
  (Reader.Frugal.take "udp" 8).bind fun _ => Reader.Frugal.pure _

end Udp

end IngressGate
