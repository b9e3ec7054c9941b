import Mathlib.Data.List.Basic
import IngressGate.Bytes
/-!
# Bytes at an offset

Readers see a frame through vectors that were cut out of it, while the format of a frame is given in
offsets. `byteAt`, `wordAt` and `fieldAt` are the offset view; a read beyond the end gives zero, so
that they are total and every statement about lengths stands on its own.
-/
namespace IngressGate.Bytes

/-- The byte at offset `i`. -/
def byteAt (bs : List UInt8) (i : Nat) : UInt8 := bs.getD i 0

/-- The 16-bit number at offset `i`. -/
def wordAt (bs : List UInt8) (i : Nat) : UInt16 := u16 (byteAt bs i) (byteAt bs (i + 1))

/-- The `width` bytes from offset `i` on. -/
def fieldAt (bs : List UInt8) (i width : Nat) : Vector UInt8 width :=
  Vector.ofFn fun j => byteAt bs (i + j)

@[simp] theorem byteAt_drop (bs : List UInt8) (o i : Nat) :
    byteAt (bs.drop o) i = byteAt bs (o + i) := by simp [byteAt, List.getD]

@[simp] theorem wordAt_drop (bs : List UInt8) (o i : Nat) :
    wordAt (bs.drop o) i = wordAt bs (o + i) := by simp [wordAt, Nat.add_assoc]

@[simp] theorem fieldAt_drop (bs : List UInt8) (o i width : Nat) :
    fieldAt (bs.drop o) i width = fieldAt bs (o + i) width := by simp [fieldAt, Nat.add_assoc]

theorem byteAt_append_left {bs x : List UInt8} {i : Nat} (h : i < bs.length) :
    byteAt (bs ++ x) i = byteAt bs i := by simp [byteAt, List.getD, List.getElem?_append_left h]

theorem wordAt_append_left {bs x : List UInt8} {i : Nat} (h : i + 1 < bs.length) :
    wordAt (bs ++ x) i = wordAt bs i := by
  rw [wordAt, byteAt_append_left (by omega), byteAt_append_left h, wordAt]

theorem byteAt_append_right {bs x : List UInt8} {i : Nat} (h : bs.length ≤ i) :
    byteAt (bs ++ x) i = byteAt x (i - bs.length) := by
  simp [byteAt, List.getD, List.getElem?_append_right h]

theorem wordAt_append_right {bs x : List UInt8} {i : Nat} (h : bs.length ≤ i) :
    wordAt (bs ++ x) i = wordAt x (i - bs.length) := by
  rw [wordAt, byteAt_append_right h, byteAt_append_right (by omega), wordAt, Nat.sub_add_comm h]

theorem fieldAt_append_left {bs x : List UInt8} {i width : Nat} (h : i + width ≤ bs.length) :
    fieldAt (bs ++ x) i width = fieldAt bs i width := by
  ext j hj
  simp [fieldAt, byteAt_append_left (show i + j < bs.length by omega)]

theorem fieldAt_append_right {bs x : List UInt8} {i width : Nat} (h : bs.length ≤ i) :
    fieldAt (bs ++ x) i width = fieldAt x (i - bs.length) width := by
  ext j hj
  simp [fieldAt, byteAt_append_right (show bs.length ≤ i + j by omega), Nat.sub_add_comm h]

theorem byteAt_of_lt {bs : List UInt8} {i : Nat} (h : i < bs.length) : byteAt bs i = bs[i] := by
  simp [byteAt, h]

@[simp] theorem byteAt_toList {n : Nat} (v : Vector UInt8 n) {i : Nat} (h : i < n) :
    byteAt v.toList i = v[i] := by
  rw [byteAt_of_lt (by simpa using h)]
  simp

@[simp] theorem fieldAt_toList {n : Nat} (v : Vector UInt8 n) : fieldAt v.toList 0 n = v := by
  ext j hj
  simp [fieldAt]

/-! ## Parts of bytes -/

/-- The high half of a byte. -/
theorem toNat_shiftRight_four (b : UInt8) : (b >>> 4).toNat = b.toNat / 16 := by
  simp [UInt8.toNat_shiftRight, Nat.shiftRight_eq_div_pow]

/-- The low half of a byte. -/
theorem toNat_and_fifteen (b : UInt8) : (b &&& 0x0F).toNat = b.toNat % 16 := by
  rw [UInt8.toNat_and]
  exact Nat.and_two_pow_sub_one_eq_mod b.toNat 4

theorem toNat_u16 (hi lo : UInt8) : (u16 hi lo).toNat = 256 * hi.toNat + lo.toNat := by
  have hhi : hi.toNat < 256 := hi.toNat_lt
  have hlo : lo.toNat < 256 := lo.toNat_lt
  simp only [u16, value, List.foldl, Nat.mul_zero, Nat.zero_add, UInt16.toNat_ofNat']
  omega

@[simp] theorem wordAt_ofU16 (w : UInt16) : wordAt (ofU16 w) 0 = w := by
  have hw : w.toNat < 65536 := w.toNat_lt
  rw [← UInt16.toNat_inj, wordAt, toNat_u16]
  simp only [ofU16, digits, byteAt, List.nil_append, List.cons_append, List.getD_cons_zero,
    List.getD_cons_succ, UInt8.toNat_ofNat']
  omega

/-- Clearing the three highest bits of a 16-bit number. -/
theorem toNat_u16_and (hi lo : UInt8) :
    (u16 (hi &&& 0x1F) lo).toNat = (u16 hi lo).toNat % 8192 := by
  have hand : (hi &&& 0x1F).toNat = hi.toNat % 32 := by
    rw [UInt8.toNat_and]
    exact Nat.and_two_pow_sub_one_eq_mod hi.toNat 5
  have hlo : lo.toNat < 256 := lo.toNat_lt
  rw [toNat_u16, toNat_u16, hand]
  omega

end IngressGate.Bytes
