import Mathlib.Algebra.BigOperators.Group.List.Basic
import Mathlib.Algebra.GroupWithZero.Nat
import Mathlib.Tactic.Common
import IngressGate.Proofs.Bytes.Offset
import IngressGate.Proofs.Frame.Encoding
/-!
# The checksum is a one's-complement sum

In one's-complement arithmetic of sixteen bits a carry out of the highest bit is added back in at
the lowest, and there are two zeros: a sum is the one without bits only if all its words are
(`residue`). The checksum adds up the words of a message in a wider register and folds the carries
in at the end; for a message whose sum fits in the register that comes to the same. A message that
has its checksum in it therefore adds up to the zero with all bits (`checksums_verify`).
-/
namespace IngressGate.Checksum

open Bytes

/-! ## The words of a message -/

/-- The words of a message by their offsets. What is missing of the last one is zero. -/
def wordsOf (data : List UInt8) : List UInt16 :=
  (List.range ((data.length + 1) / 2)).map fun i => wordAt data (2 * i)

/-- The sum of some words as a number of any size. -/
def total (ws : List UInt16) : Nat := (ws.map UInt16.toNat).sum

variable {data : List UInt8}

theorem wordsOf_cons_cons (hi lo : UInt8) (data : List UInt8) :
    wordsOf (hi :: lo :: data) = u16 hi lo :: wordsOf data := by
  have hcount : ((hi :: lo :: data).length + 1) / 2 = (data.length + 1) / 2 + 1 := by
    simp only [List.length_cons]
    omega
  rw [wordsOf, hcount, List.range_succ_eq_map, List.map_cons, List.map_map]
  rfl

theorem words_eq (data : List UInt8) : words data = wordsOf data := by
  induction data using words.induct with
  | case1 hi lo data ih => rw [words, ih, wordsOf_cons_cons]
  | case2 hi => simp [words, wordsOf, wordAt, byteAt]
  | case3 => rfl

theorem length_wordsOf (data : List UInt8) : (wordsOf data).length = (data.length + 1) / 2 := by
  simp [wordsOf]

/-- Behind an even number of bytes new words begin. -/
theorem words_append (h : data.length % 2 = 0) (bs : List UInt8) :
    words (data ++ bs) = words data ++ words bs := by
  induction data using words.induct with
  | case1 hi lo data ih =>
    have heven : data.length % 2 = 0 := by
      simp only [List.length_cons] at h
      omega
    simp only [List.cons_append, words, ih heven]
  | case2 hi => cases h
  | case3 => rfl

theorem words_ofU16 (w : UInt16) : words (ofU16 w) = [w] := by
  rw [words_eq, wordsOf, length_ofU16]
  simp

/-- A number that is written at an even offset is one of the words. -/
theorem words_around (h : data.length % 2 = 0) (w : UInt16) (bs : List UInt8) :
    words (data ++ (ofU16 w ++ bs)) = words data ++ w :: words bs := by
  rw [words_append h, words_append (by rw [length_ofU16]), words_ofU16, List.singleton_append]

@[simp] theorem total_nil : total [] = 0 := rfl

@[simp] theorem total_cons (w : UInt16) (ws : List UInt16) :
    total (w :: ws) = w.toNat + total ws := rfl

@[simp] theorem total_append (ws vs : List UInt16) : total (ws ++ vs) = total ws + total vs := by
  simp [total]

theorem total_le (ws : List UInt16) : total ws ≤ 65535 * ws.length := by
  induction ws with
  | nil => exact Nat.zero_le _
  | cons w ws ih =>
    have hw : w.toNat < 65536 := w.toNat_lt
    rw [total_cons, List.length_cons]
    omega

/-! ## The register -/

theorem toNat_foldl_add (s : UInt32) (ws : List UInt16) :
    (ws.foldl (fun s w => s + w.toUInt32) s).toNat = (s.toNat + total ws) % 2 ^ 32 := by
  induction ws generalizing s with
  | nil => exact (Nat.mod_eq_of_lt s.toNat_lt).symm
  | cons w ws ih =>
    rw [List.foldl_cons, ih, UInt32.toNat_add, UInt16.toNat_toUInt32, total_cons]
    omega

/-- As many words as this do not make the register wrap, even if they are all ones. -/
theorem toNat_sum (h : (data.length + 1) / 2 ≤ 65537) :
    (sum data).toNat = total (wordsOf data) := by
  have htotal := total_le (wordsOf data)
  rw [length_wordsOf] at htotal
  rw [sum, words_eq, toNat_foldl_add, UInt32.toNat_zero]
  omega

/-- One round of folding: the carries above sixteen bits are added to the bits below. -/
def foldOnce (s : UInt32) : UInt32 := (s &&& 0xFFFF : UInt32) + (s >>> 16)

/-- The register is folded while it has carries: it holds `t` at last, after some number of rounds
that began with `s`. -/
inductive Folds : (s : UInt32) → (rounds : Nat) → (t : UInt32) → Prop
  | done {s : UInt32} : s >>> 16 = 0 → Folds s 0 s
  | round {s t : UInt32} {rounds : Nat} :
    s >>> 16 ≠ 0 → Folds (foldOnce s) rounds t → Folds s (rounds + 1) t

theorem toNat_foldOnce (s : UInt32) :
    (foldOnce s).toNat = s.toNat % 65536 + s.toNat / 65536 := by
  have hs : s.toNat < 2 ^ 32 := s.toNat_lt
  have hlow : (s &&& 0xFFFF : UInt32).toNat = s.toNat % 65536 := by
    rw [UInt32.toNat_and]
    exact Nat.and_two_pow_sub_one_eq_mod s.toNat 16
  have hhigh : (s >>> 16).toNat = s.toNat / 65536 := by
    simp [UInt32.toNat_shiftRight, Nat.shiftRight_eq_div_pow]
  rw [foldOnce, UInt32.toNat_add, hlow, hhigh]
  omega

theorem shiftRight_eq_zero_iff (s : UInt32) : s >>> 16 = 0 ↔ s.toNat < 65536 := by
  rw [← UInt32.toNat_inj, UInt32.toNat_shiftRight, UInt32.toNat_zero]
  simp [Nat.shiftRight_eq_div_pow]

/-- The rounds come to what adding the carries comes to. -/
theorem Folds.toNat_eq {s t : UInt32} {rounds : Nat} (h : Folds s rounds t) :
    t.toNat = fold s.toNat := by
  induction h with
  | done hs =>
    rw [fold, dif_pos ((shiftRight_eq_zero_iff _).mp hs)]
  | round hs _ ih =>
    rw [fold, dif_neg ((shiftRight_eq_zero_iff _).not.mp hs), ih, toNat_foldOnce]

/-- There is one carry at most after the first round, and none after the second. -/
theorem exists_folds (s : UInt32) : ∃ rounds ≤ 2, ∃ t, Folds s rounds t := by
  have hs : s.toNat < 2 ^ 32 := s.toNat_lt
  have hfirst := toNat_foldOnce s
  have hsecond := toNat_foldOnce (foldOnce s)
  by_cases hnone : s >>> 16 = 0
  · exact ⟨0, by decide, s, .done hnone⟩
  by_cases hone : foldOnce s >>> 16 = 0
  · exact ⟨1, by decide, _, .round hnone (.done hone)⟩
  have htwo : foldOnce (foldOnce s) >>> 16 = 0 := by
    rw [shiftRight_eq_zero_iff]
    omega
  exact ⟨2, by decide, _, .round hnone (.round hone (.done htwo))⟩

/-! ## One's-complement arithmetic -/

/-- One's-complement addition: the carry is added back in. -/
def onesAdd (a b : UInt16) : UInt16 := if a.toNat + b.toNat < 65536 then a + b else a + b + 1

/-- The one's-complement sum of some words. -/
def onesSum (ws : List UInt16) : UInt16 := ws.foldl onesAdd 0

/-- The number below `2 ^ 16` that is left of a sum when all carries are added back in: of the two
multiples of `2 ^ 16 - 1` among these, it is zero for zero alone. -/
def residue (n : Nat) : Nat := if n = 0 then 0 else (n - 1) % 65535 + 1

theorem residue_of_lt {n : Nat} (h : n < 65536) : residue n = n := by
  rw [residue]
  split <;> omega

theorem residue_le (n : Nat) : residue n ≤ 65535 := by
  rw [residue]
  split <;> omega

/-- Adding the carries back in changes a sum by a multiple of `2 ^ 16 - 1`, and not to zero. -/
theorem residue_carry (n : Nat) : residue (n % 65536 + n / 65536) = residue n := by
  simp only [residue]
  split <;> split <;> omega

theorem residue_sub {n : Nat} (h : 65535 < n) : residue (n - 65535) = residue n := by
  rw [residue, residue, if_neg (by omega), if_neg (by omega)]
  omega

theorem fold_eq (n : Nat) : fold n = residue n := by
  induction n using fold.induct with
  | case1 n h => rw [fold, dif_pos h, residue_of_lt h]
  | case2 n h ih => rw [fold, dif_neg h, ih, residue_carry]

theorem residue_onesAdd (a b : UInt16) (n : Nat) :
    residue ((onesAdd a b).toNat + n) = residue (a.toNat + b.toNat + n) := by
  have ha : a.toNat < 65536 := a.toNat_lt
  have hb : b.toNat < 65536 := b.toNat_lt
  by_cases hcarry : a.toNat + b.toNat < 65536
  · have hsum : (onesAdd a b).toNat = a.toNat + b.toNat := by
      rw [onesAdd, if_pos hcarry, UInt16.toNat_add, Nat.mod_eq_of_lt hcarry]
    rw [hsum]
  · have hsum : (onesAdd a b).toNat = a.toNat + b.toNat - 65535 := by
      rw [onesAdd, if_neg hcarry, UInt16.toNat_add, UInt16.toNat_add, UInt16.toNat_one]
      omega
    have hmove : a.toNat + b.toNat - 65535 + n = a.toNat + b.toNat + n - 65535 := by omega
    rw [hsum, hmove, residue_sub (by omega)]

theorem toNat_foldl_onesAdd (a : UInt16) (ws : List UInt16) :
    (ws.foldl onesAdd a).toNat = residue (a.toNat + total ws) := by
  induction ws generalizing a with
  | nil => exact (residue_of_lt a.toNat_lt).symm
  | cons w ws ih => rw [List.foldl_cons, ih, residue_onesAdd, total_cons, Nat.add_assoc]

theorem toNat_onesSum (ws : List UInt16) : (onesSum ws).toNat = residue (total ws) := by
  rw [onesSum, toNat_foldl_onesAdd, UInt16.toNat_zero, Nat.zero_add]

/-! ## The checksum -/

theorem complement_eq {w : UInt16} {n : Nat} (h : w.toNat = n) :
    UInt16.ofNat (65535 - n) = ~~~w := by
  rw [← UInt16.toNat_inj, UInt16.toNat_not, UInt16.toNat_ofNat', h]
  exact Nat.mod_eq_of_lt (by omega)

/-- How the checksum of a message comes about. -/
structure Complements (data : List UInt8) : Prop where
  /-- The register does not wrap. -/
  toNat_sum : (sum data).toNat = total (wordsOf data)
  /-- It is folded in two rounds at most, -/
  folds : ∃ rounds ≤ 2, ∃ t, Folds (sum data) rounds t ∧ checksum data = ~~~t.toUInt16
  /-- to the one's-complement sum of the words. -/
  checksum_eq : checksum data = ~~~onesSum (wordsOf data)
  toNat_onesSum : (onesSum (wordsOf data)).toNat = residue (total (wordsOf data))

theorem complements (h : (data.length + 1) / 2 ≤ 65537) : Complements data where
  toNat_sum := toNat_sum h
  folds := by
    obtain ⟨rounds, hrounds, t, ht⟩ := exists_folds (sum data)
    have hlt : t.toNat < 2 ^ 16 := by
      have hle := residue_le (sum data).toNat
      rw [ht.toNat_eq, fold_eq]
      omega
    have hword : t.toUInt16.toNat = fold (sum data).toNat := by
      rw [UInt32.toNat_toUInt16, Nat.mod_eq_of_lt hlt, ht.toNat_eq]
    exact ⟨rounds, hrounds, t, ht, complement_eq hword⟩
  checksum_eq := by
    refine complement_eq ?_
    rw [toNat_onesSum, toNat_sum h, fold_eq]
  toNat_onesSum := toNat_onesSum _

theorem toNat_checksum (h : (data.length + 1) / 2 ≤ 65537) :
    (checksum data).toNat = 65535 - residue (total (wordsOf data)) := by
  rw [(complements h).checksum_eq, UInt16.toNat_not, toNat_onesSum]
  rfl

/-- A sum and what it lacks to the zero with all bits make up that zero. -/
theorem residue_add_complement (n : Nat) : residue (n + (65535 - residue n)) = 65535 := by
  simp only [residue]
  split <;> split <;> omega

/-- A message verifies if it adds up to the sum of another and its checksum. -/
theorem checksum_eq_zero (data : List UInt8) {data' : List UInt8}
    (h : (data.length + 1) / 2 ≤ 65537) (h' : (data'.length + 1) / 2 ≤ 65537)
    (htotal : total (wordsOf data') = total (wordsOf data) + (checksum data).toNat) :
    checksum data' = 0 := by
  rw [← UInt16.toNat_inj, toNat_checksum h', htotal, toNat_checksum h, residue_add_complement]
  rfl

theorem checksum_append (heven : data.length % 2 = 0) (h : data.length ≤ 2 * 65536) :
    checksum (data ++ ofU16 (checksum data)) = 0 := by
  refine checksum_eq_zero data (by omega) ?_ ?_
  · rw [List.length_append, length_ofU16]
    omega
  · rw [← words_eq, words_append heven, words_ofU16, total_append, words_eq]
    simp

/-- The checksum of a header is one of its words. -/
theorem total_header (p : Ipv4.Packet) (check : UInt16) :
    total (words (p.header check)) = total (words (p.header 0)) + check.toNat := by
  have hheader (w : UInt16) : p.header w =
      ([0x45, 0] ++ ofU16 (UInt16.ofNat (20 + p.payload.length)) ++ [0, 0] ++
        ofU16 p.flagsField ++ [p.timeToLive, p.protocol]) ++
      (ofU16 w ++ (p.source.octets.toList ++ p.destination.octets.toList)) := by
    simp [Ipv4.Packet.header]
  rw [hheader check, hheader 0, words_around (by simp), words_around (by simp)]
  simp only [total_append, total_cons, UInt16.toNat_zero]
  omega

theorem checksum_header (p : Ipv4.Packet) :
    checksum (p.header (checksum (p.header 0))) = 0 := by
  have hshort (check : UInt16) : ((p.header check).length + 1) / 2 ≤ 65537 := by
    rw [Ipv4.length_header]
    decide
  refine checksum_eq_zero (p.header 0) (hshort _) (hshort _) ?_
  rw [← words_eq, ← words_eq, total_header]

/-- **The checksum is the Internet checksum**: it complements the one's-complement sum of the words
of every message that is not too long for the register, and what has its checksum in it verifies.
So does the header of every packet that is written. -/
theorem checksums_verify :
    (∀ data, (data.length + 1) / 2 ≤ 65537 → Complements data) ∧
    (∀ data, data.length % 2 = 0 → data.length ≤ 2 * 65536 →
      checksum (data ++ ofU16 (checksum data)) = 0) ∧
    ∀ p : Ipv4.Packet, checksum (p.encode.take 20) = 0 := by
  refine ⟨fun data => complements, fun data => checksum_append, fun p => ?_⟩
  have hheader : p.encode.take 20 = p.header (checksum (p.header 0)) :=
    List.take_left' (Ipv4.length_header p _)
  rw [hheader]
  exact checksum_header p

theorem checksums_verify_oddMessage :
    (([0xFF, 0xFF, 0x01] : List UInt8).length + 1) / 2 ≤ 65537 ∧ Complements [0xFF, 0xFF, 0x01] ∧
      checksum [0xFF, 0xFF, 0x01] = 0xFEFF ∧
      ([0x00, 0x00] : List UInt8).length % 2 = 0 ∧
      checksum ([0x00, 0x00] ++ ofU16 (checksum [0x00, 0x00])) = 0 := by
  obtain ⟨hcomplements, hverify, -⟩ := checksums_verify
  have hodd : Complements [0xFF, 0xFF, 0x01] := hcomplements _ (by decide)
  refine ⟨by decide, hodd, ?_, by decide, hverify _ (by decide) (by decide)⟩
  rw [hodd.checksum_eq]
  decide

end IngressGate.Checksum
