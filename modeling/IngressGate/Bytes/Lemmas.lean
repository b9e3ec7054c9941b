import Mathlib.Algebra.Group.Nat.Defs
import Mathlib.Tactic.Common
import IngressGate.Bytes
/-!
# Reading back a written number

The counterpart of `digits_value`: a number that was written is read back up to what the width can
hold. A number that was read fits in the width that it was read from, so it is written as it was.
-/
namespace IngressGate.Bytes

/-- Reading back a written number keeps what fits in the width. -/
theorem value_digits (w n : Nat) : value (digits w n) = n % 256 ^ w := by
  induction w generalizing n with
  | zero => simp [digits, Nat.mod_one]
  | succ w ih =>
    have hw : 256 ^ (w + 1) = 256 * 256 ^ w := by rw [Nat.pow_succ, Nat.mul_comm]
    rw [digits, value_snoc, ih, UInt8.toNat_ofNat', hw, Nat.mod_mul]
    omega

theorem value_lt (bs : List UInt8) : value bs < 256 ^ bs.length := by
  have hvalue := value_digits bs.length (value bs)
  rw [digits_value] at hvalue
  rw [hvalue]
  exact Nat.mod_lt _ (Nat.pow_pos (by decide))

theorem ofU16_u16 (hi lo : UInt8) : ofU16 (u16 hi lo) = [hi, lo] := by
  have hlt : value [hi, lo] < 2 ^ 16 := by simpa using value_lt [hi, lo]
  rw [ofU16, u16, UInt16.toNat_ofNat', Nat.mod_eq_of_lt hlt]
  exact digits_value [hi, lo]

theorem ofU64_u64 {bs : List UInt8} (h : bs.length = 8) : ofU64 (u64 bs) = bs := by
  have hlt : value bs < 2 ^ 64 := by simpa [h] using value_lt bs
  rw [ofU64, u64, UInt64.toNat_ofNat', Nat.mod_eq_of_lt hlt, ← h, digits_value]

end IngressGate.Bytes
