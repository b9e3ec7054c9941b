/-!
# Big-endian numbers

Headers and event records write a number most significant byte first. `value` reads the number
that a list of bytes writes, and `digits` writes a number in a given width: what is read is written
back as it was.
-/
namespace IngressGate.Bytes

/-- The number that `bs` writes. -/
def value (bs : List UInt8) : Nat := bs.foldl (fun n b => 256 * n + b.toNat) 0

/-- The last `width` base-256 digits of `n`. -/
def digits : (width : Nat) → (n : Nat) → List UInt8
  | 0, _ => []
  | w + 1, n => digits w (n / 256) ++ [UInt8.ofNat n]

@[simp] theorem value_nil : value [] = 0 := rfl

theorem value_snoc (bs : List UInt8) (b : UInt8) :
    value (bs ++ [b]) = 256 * value bs + b.toNat := by simp [value]

@[simp] theorem length_digits (w n : Nat) : (digits w n).length = w := by
  induction w generalizing n with
  | zero => rfl
  | succ w ih => simp [digits, ih]

/-- Every byte list is the written form of its value in its own width. -/
theorem digits_value (bs : List UInt8) : digits bs.length (value bs) = bs := by
  rw [← List.reverse_reverse bs]
  induction bs.reverse with
  | nil => rfl
  | cons b rs ih =>
    have hb : b.toNat < 256 := b.toNat_lt
    have hdiv : (256 * value rs.reverse + b.toNat) / 256 = value rs.reverse := by omega
    simp only [List.length_reverse] at ih
    simp [digits, value_snoc, hdiv, ih]

/-- The 16-bit number with high byte `hi` and low byte `lo`. -/
def u16 (hi lo : UInt8) : UInt16 := UInt16.ofNat (value [hi, lo])

/-- The two bytes of a 16-bit number. -/
def ofU16 (w : UInt16) : List UInt8 := digits 2 w.toNat

@[simp] theorem length_ofU16 (w : UInt16) : (ofU16 w).length = 2 := length_digits 2 _

/-- The eight bytes of a 64-bit number. -/
def ofU64 (w : UInt64) : List UInt8 := digits 8 w.toNat

@[simp] theorem length_ofU64 (w : UInt64) : (ofU64 w).length = 8 := length_digits 8 _

/-- The 64-bit number that `bs` writes. -/
def u64 (bs : List UInt8) : UInt64 := UInt64.ofNat (value bs)

/-- The first `n` bytes of `bs`, filled up with zeros. -/
def padded (n : Nat) (bs : List UInt8) : Vector UInt8 n :=
  ⟨((bs ++ List.replicate n 0).take n).toArray, by simp⟩

/-- The field of `width` bytes that starts at byte `start`. -/
def slice {n : Nat} (bs : Vector UInt8 n) (start width : Nat)
    (h : start + width ≤ n := by decide) : Vector UInt8 width :=
  (bs.extract start (start + width)).cast (by omega)

end IngressGate.Bytes
