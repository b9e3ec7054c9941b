import IngressGate.Proofs.Event.Record
/-!
# The text of a message

However many parts a message is written in and wherever they are cut, its field holds the UTF-8 form
of whole characters, filled up with zeros. What is read back is the characters before the first NUL.
-/
namespace IngressGate.Message

/-! ## Bytes of characters -/

/-- The bytes of some characters. -/
def charsBytes (cs : List Char) : List UInt8 := cs.flatMap charBytes

@[simp] theorem charsBytes_cons (c : Char) (cs : List Char) :
    charsBytes (c :: cs) = charBytes c ++ charsBytes cs := rfl

@[simp] theorem charsBytes_append (xs ys : List Char) :
    charsBytes (xs ++ ys) = charsBytes xs ++ charsBytes ys := List.flatMap_append

/-- Only NUL has a zero byte in it. -/
theorem ne_zero_of_mem_charBytes {c : Char} (hc : c ≠ '\x00') {b : UInt8} (hb : b ∈ charBytes c) :
    b ≠ 0 := by
  have hpos : c.val.toNat ≠ 0 := fun h => hc (Char.ext (UInt32.toNat_inj.mp h))
  rintro rfl
  rw [charBytes, String.utf8EncodeChar] at hb
  -- every byte of a form that is longer than one byte has a marker bit
  split_ifs at hb
  all_goals
    simp only [List.mem_cons, List.not_mem_nil, or_false, ← UInt8.toNat_inj, UInt8.toNat_zero,
      UInt8.toNat_ofNat'] at hb
    omega

theorem charBytes_nul : charBytes '\x00' = [0] := rfl

/-- Cutting bytes before the first zero is cutting characters before the first NUL. -/
theorem takeWhile_charsBytes (cs : List Char) (n : Nat) :
    (charsBytes cs ++ List.replicate n 0).takeWhile (· ≠ 0) =
      charsBytes (cs.takeWhile (· ≠ '\x00')) := by
  induction cs with
  | nil => cases n <;> simp [charsBytes, List.replicate_succ]
  | cons c cs ih =>
    by_cases hc : c = '\x00'
    · subst hc
      simp [charBytes_nul, charsBytes]
    · have hall : ∀ b ∈ charBytes c, decide (b ≠ 0) = true := fun b hb =>
        decide_eq_true (ne_zero_of_mem_charBytes hc hb)
      rw [charsBytes_cons, List.append_assoc, List.takeWhile_append_of_pos hall, ih,
        List.takeWhile_cons_of_pos (by simpa using hc), charsBytes_cons]

theorem fromUTF8?_charsBytes (cs : List Char) :
    String.fromUTF8? ⟨(charsBytes cs).toArray⟩ = some (String.ofList cs) := by
  have hbytes : (⟨(charsBytes cs).toArray⟩ : ByteArray) = cs.utf8Encode :=
    ByteArray.ext List.data_toByteArray.symm
  rw [hbytes, String.fromUTF8?, dif_pos ByteArray.isValidUTF8_utf8Encode]
  rfl

/-! ## What is written -/

/-- A part is cut after a whole character. -/
theorem fitting_eq (room : Nat) (cs : List Char) :
    ∃ fitted, fitted <+: cs ∧ fitting room cs = charsBytes fitted := by
  induction cs generalizing room with
  | nil => exact ⟨[], List.nil_prefix, rfl⟩
  | cons c cs ih =>
    rw [fitting]
    split
    · obtain ⟨fitted, hprefix, hfitted⟩ := ih (room - c.utf8Size)
      exact ⟨c :: fitted, (List.prefix_cons_inj c).mpr hprefix, by rw [hfitted, charsBytes_cons]⟩
    · exact ⟨[], List.nil_prefix, rfl⟩

theorem foldl_append_charsBytes (parts : List String) (written : List Char) :
    ∃ cs, parts.foldl append (charsBytes written) = charsBytes cs := by
  induction parts generalizing written with
  | nil => exact ⟨written, rfl⟩
  | cons part parts ih =>
    obtain ⟨fitted, -, hfitted⟩ := fitting_eq (size - 1 - (charsBytes written).length) part.toList
    have happend : append (charsBytes written) part = charsBytes (written ++ fitted) := by
      rw [append, hfitted, charsBytes_append]
    rw [List.foldl_cons, happend]
    exact ih _

/-- A message field holds whole characters, filled up with zeros. -/
theorem toList_ofParts (parts : List String) :
    ∃ cs n, (ofParts parts).toList = charsBytes cs ++ List.replicate n 0 := by
  obtain ⟨cs, hcs⟩ := foldl_append_charsBytes parts []
  have hlength : (parts.foldl append []).length ≤ size :=
    Nat.le_of_lt (length_foldl_append (by decide) parts)
  exact ⟨cs, _, by rw [ofParts, Bytes.toList_padded hlength]; exact congrArg (· ++ _) hcs⟩

/-- The text of a message can always be read. -/
theorem fromUTF8?_ofParts (parts : List String) :
    String.fromUTF8? ⟨((ofParts parts).toList.takeWhile (· ≠ 0)).toArray⟩ =
      some (text (ofParts parts)) := by
  obtain ⟨cs, n, hfield⟩ := toList_ofParts parts
  have hvalid := fromUTF8?_charsBytes (cs.takeWhile (· ≠ '\x00'))
  rw [text, hfield, takeWhile_charsBytes, hvalid, Option.getD_some]

end IngressGate.Message
