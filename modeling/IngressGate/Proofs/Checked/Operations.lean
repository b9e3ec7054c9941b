import Mathlib.Tactic.Common
import IngressGate.Proofs.Event.Record
/-!
# Checked operations

The steps of a program on bytes and lengths, each of which says when it cannot be carried out: a
byte or a range that is not there, a copy between fields of different lengths, a difference below
zero, a sum or a product that takes more than a word. A program that is written with these steps and
comes to an answer has kept all bounds on its way.
-/
namespace IngressGate

/-- A step that cannot be carried out. -/
inductive Fault
  | index (i length : Nat)
  | range (start stop length : Nat)
  | copy (room length : Nat)
  | underflow (a b : Nat)
  | overflow (n : Nat)
  deriving DecidableEq, Repr

/-- A result, or the first step that could not be carried out. -/
abbrev Checked := Except Fault

namespace Checked
variable {α β : Type}

/-- How many numbers a word can hold. -/
def wordSize : Nat := 2 ^ 64

/-- A number that has to fit into a word. -/
def inWord (n : Nat) : Checked Nat := if n < wordSize then .ok n else .error (.overflow n)

/-- The sum of two lengths. -/
def add (a b : Nat) : Checked Nat := inWord (a + b)

/-- The product of two lengths. -/
def mul (a b : Nat) : Checked Nat := inWord (a * b)

/-- The difference of two lengths. -/
def sub (a b : Nat) : Checked Nat := if b ≤ a then .ok (a - b) else .error (.underflow a b)

/-- The sum of two lengths, if a word can hold it. -/
def add? (a b : Nat) : Option Nat := if a + b < wordSize then some (a + b) else none

/-- The byte number `i`. -/
def index (bs : List UInt8) (i : Nat) : Checked UInt8 :=
  match bs[i]? with
  | some b => .ok b
  | none => .error (.index i bs.length)

/-- The bytes from number `start` to before number `stop`. -/
def range (bs : List UInt8) (start stop : Nat) : Checked (List UInt8) :=
  if start ≤ stop ∧ stop ≤ bs.length then .ok ((bs.take stop).drop start)
  else .error (.range start stop bs.length)

/-- The field with other bytes from number `start` on. -/
def overwritten {n : Nat} (field : Vector UInt8 n) (start : Nat) (bs : List UInt8)
    (h : start + bs.length ≤ n) : Vector UInt8 n :=
  ⟨(field.toList.take start ++ bs ++ field.toList.drop (start + bs.length)).toArray, by
    simp only [List.size_toArray, List.length_append, List.length_take, List.length_drop,
      Vector.length_toList]
    omega⟩

/-- Copies bytes into the range of a field from number `start` to before number `stop`. -/
def copyInto {n : Nat} (field : Vector UInt8 n) (start stop : Nat) (bs : List UInt8) :
    Checked (Vector UInt8 n) :=
  if hrange : start ≤ stop ∧ stop ≤ n then
    if hlength : bs.length = stop - start then
      .ok (overwritten field start bs (by omega))
    else .error (.copy (stop - start) bs.length)
  else .error (.range start stop n)

/-- Sets the byte number `i` of a field. -/
def put {n : Nat} (field : Vector UInt8 n) (i : Nat) (b : UInt8) : Checked (Vector UInt8 n) :=
  if h : i < n then .ok (overwritten field i [b] h) else .error (.index i n)

@[simp] theorem ok_bind (a : α) (k : α → Checked β) : ((.ok a : Checked α) >>= k) = k a := rfl

/-! ## Numbers -/

section Numbers
variable {a b : Nat}

theorem add_eq (h : a + b < wordSize) : add a b = .ok (a + b) := if_pos h

theorem mul_eq (h : a * b < wordSize) : mul a b = .ok (a * b) := if_pos h

theorem add_of_small (ha : a < 2 ^ 16) (hb : b < 2 ^ 16) : add a b = .ok (a + b) :=
  add_eq (Nat.lt_trans (Nat.add_lt_add ha hb) (by decide))

theorem mul_of_small (ha : a < 2 ^ 16) (hb : b < 2 ^ 16) : mul a b = .ok (a * b) :=
  mul_eq (Nat.lt_trans (Nat.mul_lt_mul'' ha hb) (by decide))

theorem toNat_small (b : UInt8) : b.toNat < 2 ^ 16 := Nat.lt_trans b.toNat_lt (by decide)

theorem sub_eq (h : b ≤ a) : sub a b = .ok (a - b) := if_pos h

end Numbers

/-! ## Reading -/

section Reading
variable {bs : List UInt8} {n start stop i : Nat} {field : Vector UInt8 n}

theorem range_eq (h : start ≤ stop) (hstop : stop ≤ bs.length) :
    range bs start stop = .ok ((bs.take stop).drop start) := if_pos ⟨h, hstop⟩

/-- A byte of a field is read from any bytes that start with the field. -/
theorem index_of_isPrefix (h : field.toList <+: bs) (hi : i < n) : index bs i = .ok field[i] := by
  obtain ⟨rest, rfl⟩ := h
  have hlength : i < field.toList.length := by rwa [Vector.length_toList]
  rw [index, List.getElem?_append_left hlength, List.getElem?_eq_getElem hlength,
    Vector.getElem_toList]

/-- A part of a field is read from any bytes that start with the field. -/
theorem range_of_isPrefix {width : Nat} (h : field.toList <+: bs) (hpart : start + width ≤ n) :
    range bs start (start + width) = .ok (Bytes.slice field start width hpart).toList := by
  obtain ⟨rest, rfl⟩ := h
  have hlength : start + width ≤ field.toList.length := by rwa [Vector.length_toList]
  have hstop : start + width ≤ (field.toList ++ rest).length := by
    rw [List.length_append]
    omega
  rw [range_eq (Nat.le_add_right _ _) hstop, List.take_append_of_le_length hlength,
    Bytes.toList_slice hpart, List.drop_take, Nat.add_sub_cancel_left]

/-- The 16-bit number at byte `i`. -/
def word (bs : List UInt8) (i : Nat) : Checked UInt16 := do
  return Bytes.u16 (← index bs i) (← index bs (i + 1))

theorem word_of_isPrefix (h : field.toList <+: bs) (hi : i + 1 < n) :
    word bs i = .ok (Bytes.u16 field[i] field[i + 1]) := by
  rw [word, index_of_isPrefix h (Nat.lt_of_succ_lt hi), index_of_isPrefix h hi]
  rfl

/-- The address whose octets are the four bytes from number `i` on. -/
def ipv4Address (bs : List UInt8) (i : Nat) : Checked Ipv4Address := do
  return .ofBytes (← index bs i) (← index bs (i + 1)) (← index bs (i + 2)) (← index bs (i + 3))

theorem ipv4Address_of_isPrefix (h : field.toList <+: bs) (hi : i + 4 ≤ n) :
    ipv4Address bs i = .ok ⟨Bytes.slice field i 4 hi⟩ := by
  rw [ipv4Address, index_of_isPrefix h (by omega), index_of_isPrefix h (by omega),
    index_of_isPrefix h (by omega), index_of_isPrefix h (by omega)]
  have hoctets : Ipv4Address.ofBytes field[i] field[i + 1] field[i + 2] field[i + 3] =
      ⟨Bytes.slice field i 4 hi⟩ := by
    refine congrArg Ipv4Address.mk (Vector.ext fun j hj => ?_)
    obtain rfl | rfl | rfl | rfl : j = 0 ∨ j = 1 ∨ j = 2 ∨ j = 3 := by omega
    all_goals simp [Bytes.slice]
  exact congrArg Except.ok hoctets

end Reading

/-! ## Filling a field

A field that is written from its start on holds what has been written and zeros behind that. -/

section Filling
variable {n start stop : Nat} {bs : List UInt8}

theorem overwritten_padded (written bs : List UInt8) (h : written.length + bs.length ≤ n) :
    overwritten (Bytes.padded n written) written.length bs h = Bytes.padded n (written ++ bs) := by
  have hwritten : written.length ≤ n := by omega
  have hboth : (written ++ bs).length ≤ n := by rwa [List.length_append]
  have htail : (written ++ List.replicate (n - written.length) 0).drop
      (written.length + bs.length) = List.replicate (n - (written ++ bs).length) (0 : UInt8) := by
    rw [List.drop_append, List.drop_eq_nil_of_le (Nat.le_add_right _ _), List.nil_append,
      Nat.add_sub_cancel_left, List.drop_replicate, List.length_append, Nat.sub_sub]
  rw [← Vector.toList_inj, Bytes.toList_padded hboth]
  simp only [overwritten, Bytes.toList_padded hwritten, List.take_left, htail]
  rfl

/-- Copying bytes behind those that have been written. -/
theorem copyInto_padded (written : List UInt8) (hstart : written.length = start)
    (hstop : start + bs.length = stop) (h : stop ≤ n) :
    copyInto (Bytes.padded n written) start stop bs = .ok (Bytes.padded n (written ++ bs)) := by
  subst hstart hstop
  rw [copyInto, dif_pos ⟨Nat.le_add_right _ _, h⟩, dif_pos (Nat.add_sub_cancel_left ..).symm,
    overwritten_padded written bs h]

/-- Setting the byte behind those that have been written. -/
theorem put_padded (written : List UInt8) {b : UInt8} (hstart : written.length = start)
    (h : start < n) :
    put (Bytes.padded n written) start b = .ok (Bytes.padded n (written ++ [b])) := by
  subst hstart
  rw [put, dif_pos h, overwritten_padded written [b] h]

/-- A field without anything written. -/
def zeros (n : Nat) : Vector UInt8 n := Bytes.padded n []

/-- A new field of the bytes of a range. -/
def octets (bs : List UInt8) (start width : Nat) : Checked (Vector UInt8 width) := do
  copyInto (zeros width) 0 width (← range bs start (start + width))

theorem padded_toList (field : Vector UInt8 n) : Bytes.padded n field.toList = field := by
  have hlength : field.toList.length ≤ n := Nat.le_of_eq Vector.length_toList
  rw [← Vector.toList_inj, Bytes.toList_padded hlength, Vector.length_toList, Nat.sub_self,
    List.replicate_zero, List.append_nil]

theorem octets_of_isPrefix {field : Vector UInt8 n} {width : Nat} (h : field.toList <+: bs)
    (hpart : start + width ≤ n) :
    octets bs start width = .ok (Bytes.slice field start width hpart) := by
  have hlength : (Bytes.slice field start width hpart).toList.length = width := Vector.length_toList
  have hcopy := copyInto_padded [] rfl ((Nat.zero_add _).trans hlength) (Nat.le_refl width)
  rw [List.nil_append, padded_toList] at hcopy
  rw [octets, range_of_isPrefix h hpart]
  exact hcopy

end Filling

end Checked

end IngressGate
