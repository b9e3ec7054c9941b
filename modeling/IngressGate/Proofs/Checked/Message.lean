import IngressGate.Proofs.Checked.Operations
import IngressGate.Proofs.Event.Parts
/-!
# Writing a message with checks

The writer of a message works on bytes: it cuts a part where its room ends and goes back from there
to the start of a character. The room is never negative, the last byte of the field is never
written, and the field that comes of it is the one that whole characters are written into.
-/
namespace IngressGate.Message

open Checked

/-! ## Boundaries of characters -/

/-- Whether a byte is the first of a character. -/
def isLead (b : UInt8) : Bool := b < 0x80 || 0xC0 ≤ b

/-- Whether a text in UTF-8 can be cut before byte `i`. -/
def isBoundary (bytes : List UInt8) (i : Nat) : Bool :=
  if i = 0 then true
  else
    match bytes[i]? with
    | some b => isLead b
    | none => i = bytes.length

/-- The last boundary up to byte `n`. -/
def cutBack (bytes : List UInt8) (n : Nat) : Checked Nat :=
  if isBoundary bytes n then .ok n
  else
    match n with
    | 0 => .error (.underflow 0 1)
    | n + 1 => cutBack bytes n

theorem charBytes_eq (c : Char) :
    ∃ lead tail, charBytes c = lead :: tail ∧ isLead lead = true ∧
      ∀ b ∈ tail, isLead b = false := by
  have hval : c.toNat = c.val.toNat := rfl
  rw [charBytes, String.utf8EncodeChar]
  split_ifs
  all_goals refine ⟨_, _, rfl, ?_, ?_⟩
  all_goals
    simp [isLead, UInt8.lt_iff_toNat_lt, UInt8.le_iff_toNat_le]
  all_goals omega

/-- Behind a character, the text can be cut where what follows can be cut. -/
theorem isBoundary_append (c : Char) (cs : List Char) (j : Nat) :
    isBoundary (charBytes c ++ charsBytes cs) ((charBytes c).length + j) =
      isBoundary (charsBytes cs) j := by
  have hpos : (charBytes c).length + j ≠ 0 := by
    have hsize := c.utf8Size_pos
    rw [length_charBytes]
    omega
  rw [isBoundary, isBoundary, if_neg hpos, List.getElem?_append_right (Nat.le_add_right _ _),
    Nat.add_sub_cancel_left, List.length_append]
  obtain rfl | hj := Nat.eq_zero_or_pos j
  · cases cs with
    | nil => simp [charsBytes]
    | cons d cs =>
      obtain ⟨lead, tail, hbytes, hlead, -⟩ := charBytes_eq d
      simp [hbytes, hlead]
  · rw [if_neg (Nat.ne_of_gt hj)]
    simp only [Nat.add_left_cancel_iff]

/-- A text cannot be cut within a character. -/
theorem isBoundary_within {c : Char} {i : Nat} (hpos : 0 < i) (hlt : i < (charBytes c).length)
    (bs : List UInt8) : isBoundary (charBytes c ++ bs) i = false := by
  obtain ⟨lead, tail, hbytes, -, htail⟩ := charBytes_eq c
  rw [hbytes] at hlt ⊢
  obtain ⟨j, rfl⟩ := Nat.exists_eq_succ_of_ne_zero (Nat.ne_of_gt hpos)
  have hj : j < tail.length := Nat.lt_of_succ_lt_succ hlt
  have hbyte : (lead :: tail ++ bs)[j + 1]? = some tail[j] := by
    rw [List.cons_append, List.getElem?_cons_succ, List.getElem?_append_left hj,
      List.getElem?_eq_getElem hj]
  rw [isBoundary, if_neg (Nat.succ_ne_zero j), hbyte]
  exact htail _ (List.getElem_mem hj)

/-- A text can be cut exactly behind whole characters. -/
theorem isBoundary_iff (cs : List Char) (i : Nat) :
    isBoundary (charsBytes cs) i = true ↔
      ∃ start, start <+: cs ∧ (charsBytes start).length = i := by
  induction cs generalizing i with
  | nil =>
    constructor
    · intro h
      have hi : i = 0 := by simpa [isBoundary, charsBytes] using h
      exact ⟨[], List.nil_prefix, hi.symm⟩
    · rintro ⟨start, hstart, rfl⟩
      rw [List.prefix_nil.mp hstart]
      rfl
  | cons c cs ih =>
    obtain rfl | hpos := Nat.eq_zero_or_pos i
    · exact ⟨fun _ => ⟨[], List.nil_prefix, rfl⟩, fun _ => rfl⟩
    have hcons : (∃ start, start <+: c :: cs ∧ (charsBytes start).length = i) ↔
        ∃ start, start <+: cs ∧ (charBytes c).length + (charsBytes start).length = i := by
      constructor
      · rintro ⟨_ | ⟨d, start⟩, hstart, rfl⟩
        · exact absurd hpos (Nat.lt_irrefl 0)
        · obtain ⟨rfl, htail⟩ := List.cons_prefix_cons.mp hstart
          exact ⟨start, htail, by rw [charsBytes_cons, List.length_append]⟩
      · rintro ⟨start, hstart, rfl⟩
        exact ⟨c :: start, (List.prefix_cons_inj c).mpr hstart, by
          rw [charsBytes_cons, List.length_append]⟩
    rw [hcons, charsBytes_cons]
    obtain hlt | hle := Nat.lt_or_ge i (charBytes c).length
    · rw [isBoundary_within hpos hlt]
      constructor
      · intro h
        exact absurd h (by decide)
      · rintro ⟨start, -, rfl⟩
        omega
    · obtain ⟨j, rfl⟩ := Nat.exists_eq_add_of_le hle
      simp only [isBoundary_append, ih j, Nat.add_left_cancel_iff]

theorem cutBack_eq {bytes : List UInt8} {n k : Nat} (hk : k ≤ n) (hboundary : isBoundary bytes k)
    (hlast : ∀ i ≤ n, isBoundary bytes i → i ≤ k) : cutBack bytes n = .ok k := by
  induction n with
  | zero =>
    obtain rfl := Nat.le_zero.mp hk
    rw [cutBack, if_pos hboundary]
  | succ n ih =>
    rw [cutBack]
    split
    · next h => rw [Nat.le_antisymm hk (hlast _ (Nat.le_refl _) h)]
    · next h =>
      have hne : k ≠ n + 1 := by
        rintro rfl
        exact h hboundary
      exact ih (by omega) fun i hi => hlast i (by omega)

/-- Going back from the end of the room leaves the characters that fit. -/
theorem cutBack_charsBytes (cs : List Char) (room : Nat) :
    cutBack (charsBytes cs) (min (charsBytes cs).length room) = .ok (fitting room cs).length := by
  obtain ⟨kept, hkept, hfitting, hlongest⟩ := fitting_longest room cs
  have hroom := length_fitting_le room cs
  have hle : (charsBytes kept).length ≤ (charsBytes cs).length := by
    obtain ⟨rest, rfl⟩ := hkept
    rw [charsBytes_append, List.length_append]
    omega
  rw [hfitting] at hroom ⊢
  refine cutBack_eq (by omega) ((isBoundary_iff cs _).mpr ⟨kept, hkept, rfl⟩) fun i hi h => ?_
  obtain ⟨start, hstart, rfl⟩ := (isBoundary_iff cs i).mp h
  obtain ⟨rest, rfl⟩ := hlongest start hstart (by omega)
  rw [charsBytes_append, List.length_append]
  omega

/-- What fits is the start of the text up to there. -/
theorem take_length_fitting (cs : List Char) (room : Nat) :
    (charsBytes cs).take (fitting room cs).length = fitting room cs := by
  obtain ⟨kept, ⟨rest, rfl⟩, hfitting, -⟩ := fitting_longest room cs
  rw [hfitting, charsBytes_append, List.take_left]

/-! ## The writer -/

/-- A field in the course of being written, and how many of its bytes have been written. -/
structure Writer where
  field : Vector UInt8 size
  length : Nat

namespace Writer

/-- Nothing has been written yet. -/
def start : Writer := ⟨zeros size, 0⟩

/-- Writes as much of a part as there is room for. -/
def write (w : Writer) (part : String) : Checked Writer := do
  let bytes := charsBytes part.toList
  let room ← sub (← sub size 1) w.length
  let kept ← cutBack bytes (min bytes.length room)
  let stop ← add w.length kept
  let field ← copyInto w.field w.length stop (← range bytes 0 kept)
  return ⟨field, ← add w.length kept⟩

/-- Some bytes have been written. -/
def holding (written : List UInt8) : Writer := ⟨Bytes.padded size written, written.length⟩

theorem write_holding {written : List UInt8} (h : written.length < size) (part : String) :
    (holding written).write part = .ok (holding (append written part)) := by
  have hcapacity : sub size 1 = .ok capacity := rfl
  have hroom : sub capacity written.length = .ok (capacity - written.length) :=
    sub_eq (Nat.le_pred_of_lt h)
  generalize hkept : fitting (capacity - written.length) part.toList = kept
  have hcut := cutBack_charsBytes part.toList (capacity - written.length)
  have htake := take_length_fitting part.toList (capacity - written.length)
  have hlength := length_fitting_le (capacity - written.length) part.toList
  rw [hkept] at hcut htake hlength
  have hstop : written.length + kept.length ≤ capacity := by
    have hle : written.length ≤ capacity := Nat.le_pred_of_lt h
    omega
  have hsum : add written.length kept.length = .ok (written.length + kept.length) :=
    add_eq (Nat.lt_of_le_of_lt hstop (by decide))
  have hrange : range (charsBytes part.toList) 0 kept.length = .ok kept := by
    have hle : kept.length ≤ (charsBytes part.toList).length := by
      rw [← htake, List.length_take]
      omega
    rw [range_eq (Nat.zero_le _) hle, htake, List.drop_zero]
  have hcopy : copyInto (Bytes.padded size written) written.length (written.length + kept.length)
      kept = .ok (Bytes.padded size (written ++ kept)) :=
    copyInto_padded written rfl rfl (Nat.le_trans hstop (by decide))
  have happend : append written part = written ++ kept := congrArg (written ++ ·) hkept
  simp only [write, holding, hcapacity, hroom, hcut, hsum, hrange, hcopy, ok_bind]
  rw [happend, List.length_append]
  rfl

/-- Any parts can be written, and the last byte of the field stays out of reach. -/
theorem foldlM_write (parts : List String) {written : List UInt8} (h : written.length < size) :
    parts.foldlM write (holding written) = .ok (holding (parts.foldl append written)) := by
  induction parts generalizing written with
  | nil => rfl
  | cons part parts ih =>
    rw [List.foldlM_cons, write_holding h]
    exact ih (length_append_le h part)

end Writer

end IngressGate.Message
