import IngressGate.Frame.Reader
import IngressGate.Proofs.Bytes.Offset
/-!
# Laws of readers

How a reader that runs in steps is computed, what the bytes that it takes are in the offset view of
the frame, and the property that all readers of headers share: a `Stable` reader that ends well, or
that rejects what it has seen, does the same on every longer frame.
-/
namespace IngressGate

open Bytes

namespace Cursor

@[simp] theorem rest_advance (c : Cursor) (n : Nat) : (c.advance n).rest = c.rest.drop n := rfl

theorem advance_advance (c : Cursor) (m n : Nat) :
    (c.advance m).advance n = c.advance (m + n) := by
  simp [advance, Nat.add_assoc]

theorem remaining_advance (c : Cursor) (n : Nat) :
    (c.advance n).remaining = c.remaining - n := by simp [remaining]

@[simp] theorem getElem_front {c : Cursor} {n : Nat} (h : n ≤ c.remaining) {i : Nat} (hi : i < n) :
    (c.front n h)[i] = byteAt c.rest i := by
  have hlt : i < c.rest.length := Nat.lt_of_lt_of_le hi h
  simp [front, byteAt_of_lt hlt]

theorem slice_front {c : Cursor} {n : Nat} (h : n ≤ c.remaining) {start width : Nat}
    (hs : start + width ≤ n) :
    slice (c.front n h) start width hs = fieldAt c.rest start width := by
  ext i hi
  simp [slice, fieldAt, getElem_front h (show start + i < n by omega)]

theorem advance_append (p : Nat) (bs rest : List UInt8) :
    (Cursor.mk p (bs ++ rest)).advance bs.length = ⟨p + bs.length, rest⟩ := by simp [advance]

theorem length_le_remaining (p : Nat) (bs rest : List UInt8) :
    bs.length ≤ (Cursor.mk p (bs ++ rest)).remaining := by simp [remaining]

/-- The same position in a frame that goes on with `x`. -/
def extend (c : Cursor) (x : List UInt8) : Cursor := ⟨c.position, c.rest ++ x⟩

@[simp] theorem rest_extend (c : Cursor) (x : List UInt8) : (c.extend x).rest = c.rest ++ x := rfl

@[simp] theorem extend_ofFrame (frame x : List UInt8) :
    (ofFrame frame).extend x = ofFrame (frame ++ x) := rfl

theorem front_extend {c : Cursor} {n : Nat} (h : n ≤ c.remaining) (x : List UInt8)
    (h' : n ≤ (c.extend x).remaining) : (c.extend x).front n h' = c.front n h := by
  simp [front, extend, List.take_append_of_le_length h]

theorem advance_extend {c : Cursor} {n : Nat} (h : n ≤ c.remaining) (x : List UInt8) :
    (c.extend x).advance n = (c.advance n).extend x := by
  simp [advance, extend, List.drop_append_of_le_length h]

theorem le_remaining_extend {c : Cursor} {n : Nat} (h : n ≤ c.remaining) (x : List UInt8) :
    n ≤ (c.extend x).remaining := by
  simp only [remaining, rest_extend, List.length_append] at h ⊢
  omega

end Cursor

namespace Reader
variable {α β : Type} {r : Reader α} {k : α → Reader β} {c c' : Cursor} {a : α} {e : HeaderError}

theorem bind_of_ok (h : r c = .ok a c') : (r >>= k) c = k a c' := by
  simp [bind, EStateM.bind, h]

theorem bind_of_error (h : r c = .error e c') : (r >>= k) c = .error e c' := by
  simp [bind, EStateM.bind, h]

theorem pure_apply (a : α) (c : Cursor) : (pure a : Reader α) c = .ok a c := rfl

theorem reject_apply (e : HeaderError) (c : Cursor) : (reject e : Reader α) c = .error e c := rfl

/-- Taking is looking and then moving. -/
theorem take_eq (header : String) (n : Nat) :
    take header n = do
      let b ← peek header n
      skip header n
      return b := by
  funext c
  by_cases hn : n ≤ c.remaining
  · rw [take_of_le hn, bind_of_ok (peek_of_le hn), bind_of_ok (skip_of_le hn), pure_apply]
  · have hlt : c.remaining < n := Nat.lt_of_not_le hn
    rw [take_of_lt hlt, bind_of_error (peek_of_lt hlt)]

/-- A header error that more bytes might mend. -/
def isShortage : HeaderError → Bool
  | .truncated _ _ _ => true
  | _ => false

/-- More bytes behind the frame change nothing, unless there were too few. -/
structure Stable (r : Reader α) : Prop where
  ok : ∀ {c a c'}, r c = .ok a c' → ∀ x, r (c.extend x) = .ok a (c'.extend x)
  error : ∀ {c e c'}, r c = .error e c' → isShortage e = false →
    ∀ x, r (c.extend x) = .error e (c'.extend x)

namespace Stable

theorem pure (a : α) : Stable (pure a : Reader α) where
  ok h x := by cases h; rfl
  error h := by cases h

theorem reject (e : HeaderError) : Stable (reject e : Reader α) where
  ok h := by cases h
  error h _ x := by cases h; rfl

theorem bind (hr : Stable r) (hk : ∀ a, Stable (k a)) : Stable (r >>= k) where
  ok {c b c'} h x := by
    cases hc : r c with
    | ok a d =>
      rw [bind_of_ok hc] at h
      rw [bind_of_ok (hr.ok hc x)]
      exact (hk a).ok h x
    | error e d =>
      rw [bind_of_error hc] at h
      cases h
  error {c e c'} h he x := by
    cases hc : r c with
    | ok a d =>
      rw [bind_of_ok hc] at h
      rw [bind_of_ok (hr.ok hc x)]
      exact (hk a).error h he x
    | error e d =>
      rw [bind_of_error hc] at h
      cases h
      exact bind_of_error (hr.error hc he x)

theorem peek (header : String) (n : Nat) : Stable (peek header n) where
  ok {c a c'} h x := by
    by_cases hn : n ≤ c.remaining
    · rw [peek_of_le hn] at h
      cases h
      rw [peek_of_le (Cursor.le_remaining_extend hn x), Cursor.front_extend hn]
    · rw [peek_of_lt (Nat.lt_of_not_le hn)] at h
      cases h
  error {c e c'} h he x := by
    by_cases hn : n ≤ c.remaining
    · rw [peek_of_le hn] at h
      cases h
    · rw [peek_of_lt (Nat.lt_of_not_le hn)] at h
      cases h
      cases he

theorem skip (header : String) (n : Nat) : Stable (skip header n) where
  ok {c a c'} h x := by
    by_cases hn : n ≤ c.remaining
    · rw [skip_of_le hn] at h
      cases h
      rw [skip_of_le (Cursor.le_remaining_extend hn x), Cursor.advance_extend hn]
    · rw [skip_of_lt (Nat.lt_of_not_le hn)] at h
      cases h
  error {c e c'} h he x := by
    by_cases hn : n ≤ c.remaining
    · rw [skip_of_le hn] at h
      cases h
    · rw [skip_of_lt (Nat.lt_of_not_le hn)] at h
      cases h
      cases he

theorem take (header : String) (n : Nat) : Stable (take header n) := by
  rw [take_eq]
  exact (peek header n).bind fun b => (skip header n).bind fun _ => pure b

end Stable

end Reader

end IngressGate
