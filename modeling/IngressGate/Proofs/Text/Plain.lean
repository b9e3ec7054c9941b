import IngressGate.Proofs.Decision.Course
/-!
# Plain texts

A text is plain when each of its characters has one byte. Names, numbers and the fixed parts of
messages are plain, and so is everything that the gate says about a frame: none of it has any other
characters than those of ASCII that can be printed.
-/
namespace IngressGate

namespace Text

/-- Every character of the text has a property. -/
def All (p : Char → Prop) (s : String) : Prop := ∀ c ∈ s.toList, p c

namespace All
variable {p q : Char → Prop} {s t : String} {l : List String}

theorem append_iff : All p (s ++ t) ↔ All p s ∧ All p t := by
  simp [All, String.toList_append, or_imp, forall_and]

theorem append (hs : All p s) (ht : All p t) : All p (s ++ t) := append_iff.mpr ⟨hs, ht⟩

theorem mono (hpq : ∀ c, p c → q c) (h : All p s) : All q s := fun c hc => hpq c (h c hc)

theorem ofList {cs : List Char} (h : ∀ c ∈ cs, p c) : All p (String.ofList cs) := by
  rwa [All, String.toList_ofList]

theorem intercalate (hs : All p s) (hl : ∀ t ∈ l, All p t) : All p (s.intercalate l) := by
  rw [All, String.toList_intercalate, List.intercalate]
  induction l with
  | nil => simp
  | cons t l ih =>
    have ht : All p t := hl t List.mem_cons_self
    cases l with
    | nil => simpa [All] using ht
    | cons u l =>
      have hrest := ih fun t' ht' => hl t' (List.mem_cons_of_mem t ht')
      simp only [List.map_cons, List.intersperse_cons_cons, List.flatten_cons, List.mem_append]
      rintro c (hc | hc | hc)
      · exact ht c hc
      · exact hs c hc
      · exact hrest c hc

end All

/-- Every character of the text has one byte. -/
def Plain (s : String) : Prop := ∀ c ∈ s.toList, c.utf8Size = 1

instance (s : String) : Decidable (Plain s) :=
  decidable_of_iff (s.toList.all (·.utf8Size == 1) = true) (by simp [Plain])

/-- A character of ASCII that can be printed, the space included. -/
def IsPrintable (c : Char) : Prop := 0x20 ≤ c.toNat ∧ c.toNat ≤ 0x7E

instance : DecidablePred IsPrintable := fun _ => inferInstanceAs (Decidable (_ ∧ _))

theorem IsPrintable.utf8Size_eq {c : Char} (h : IsPrintable c) : c.utf8Size = 1 :=
  Char.utf8Size_eq_one_iff.mpr (UInt32.le_iff_toNat_le.mpr (Nat.le_trans h.2 (by decide)))

/-- Every character of the text can be printed. -/
def Printable (s : String) : Prop := All IsPrintable s

instance (s : String) : Decidable (Printable s) :=
  decidable_of_iff (s.toList.all (fun c => decide (IsPrintable c)) = true) (by
    simp [Printable, All])

namespace Printable

theorem append {s t : String} (hs : Printable s) (ht : Printable t) : Printable (s ++ t) :=
  All.append hs ht

theorem plain {s : String} (h : Printable s) : Plain s := All.mono (fun _ => (·.utf8Size_eq)) h

/-! ## Numbers -/

theorem digitChar (d : Nat) : IsPrintable (Nat.digitChar d) := by
  by_cases hd : d < 16
  · have hdigits : ∀ d < 16, IsPrintable (Nat.digitChar d) := by decide
    exact hdigits d hd
  · have hother : Nat.digitChar d = '*' := by
      rw [Nat.digitChar]
      repeat rw [if_neg (by omega)]
    rw [hother]
    decide

theorem toDigitsCore (base fuel n : Nat) {acc : List Char} (hacc : ∀ c ∈ acc, IsPrintable c) :
    ∀ c ∈ Nat.toDigitsCore base fuel n acc, IsPrintable c := by
  induction fuel generalizing n acc with
  | zero => exact hacc
  | succ fuel ih =>
    have hcons : ∀ c ∈ Nat.digitChar (n % base) :: acc, IsPrintable c := by
      rintro c (_ | ⟨_, hc⟩)
      · exact digitChar _
      · exact hacc c hc
    rw [Nat.toDigitsCore]
    split
    · exact hcons
    · exact ih _ hcons

theorem toDigits (base n : Nat) : ∀ c ∈ Nat.toDigits base n, IsPrintable c :=
  toDigitsCore base (n + 1) n (by simp)

theorem number (n : Nat) : Printable (toString n) := All.ofList (toDigits 10 n)

theorem hexPadded (width n : Nat) : Printable (hexPadded width n) := by
  refine All.ofList fun c hc => ?_
  obtain hc | hc := List.mem_append.mp hc
  · rw [List.eq_of_mem_replicate hc]
    decide
  · exact toDigits 16 n c hc

end Printable

end Text

open Text

/-! ## What is said about a frame -/

theorem Protocol.printable_name (p : UInt8) : Printable (name p) := by
  unfold name
  split_ifs <;> decide

theorem ProtocolSet.printable_text (s : ProtocolSet) : Printable s.text := by
  have hnamed : ∀ n ∈ named, Printable n.1 := by decide
  unfold text
  split_ifs
  · decide
  · split
    · decide
    · refine All.intercalate (show Printable "|" by decide) fun t ht => ?_
      obtain ⟨n, hn, rfl⟩ := List.mem_map.mp ht
      exact hnamed n (List.mem_filter.mp hn).1

section
variable {p : Char → Prop} (hp : ∀ c, IsPrintable c → p c)
include hp

/-- A report on missing bytes has no other characters than the name of the header, but for those
that can be printed. -/
theorem HeaderError.all_truncated {header : String} (h : All p header) (needed remaining : Nat) :
    All p (truncated header needed remaining).message := by
  have hmessage : (truncated header needed remaining).message =
      header ++ " header truncated: need " ++ toString needed ++ " bytes, " ++
        toString remaining ++ " remaining" := rfl
  have hfixed {s : String} (hs : Printable s) : All p s := hs.mono hp
  rw [hmessage]
  exact ((((h.append (hfixed (by decide))).append (hfixed (.number _))).append
    (hfixed (by decide))).append (hfixed (.number _))).append (hfixed (by decide))

end

namespace HeaderError

theorem plain_truncated {header : String} (h : Plain header) (needed remaining : Nat) :
    Plain (truncated header needed remaining).message :=
  all_truncated (fun _ => (·.utf8Size_eq)) h needed remaining

theorem printable_truncated {header : String} (h : Printable header) (needed remaining : Nat) :
    Printable (truncated header needed remaining).message :=
  all_truncated (fun _ => id) h needed remaining

theorem printable_unsupportedExtension (type : UInt8) :
    Printable (unsupportedExtension type).message := by
  have hmessage : (unsupportedExtension type).message =
      "unsupported IPv6 extension header " ++ toString type.toNat := rfl
  rw [hmessage]
  exact .append (by decide) (.number _)

theorem plain_unsupportedExtension (type : UInt8) :
    Plain (unsupportedExtension type).message := (printable_unsupportedExtension type).plain

theorem printable_malformed (flaw : Flaw) : Printable (malformed flaw).message := by
  have hmessage : (malformed flaw).message =
      "malformed " ++ flaw.header ++ " header: " ++ flaw.reason := rfl
  have hheader : Printable flaw.header := by cases flaw <;> decide
  have hreason : Printable flaw.reason := by cases flaw <;> decide
  rw [hmessage]
  exact ((Printable.append (by decide) hheader).append (by decide)).append hreason

theorem plain_malformed (flaw : Flaw) : Plain (malformed flaw).message :=
  (printable_malformed flaw).plain

end HeaderError

namespace Finding

theorem printable_ruleText (flow : Flow) (rule : Match) : Printable (ruleText flow rule) := by
  cases rule with
  | source => exact .append (by decide) (Protocol.printable_name _)
  | port =>
    exact ((Printable.append (by decide) (.number _)).append (by decide)).append
      (Protocol.printable_name _)

/-- Only the report of an error can have characters that cannot be printed. -/
theorem printable_or_error (f : Finding) :
    Printable f.text ∨ ∃ e, f.error? = some e ∧ f.text = e.message := by
  cases f with
  | unreadable e => exact .inr ⟨e, rfl, rfl⟩
  | unreadableIpv6 e => exact .inr ⟨e, rfl, rfl⟩
  | unreadableTransport flow e => exact .inr ⟨e, rfl, rfl⟩
  | arp queue => exact .inl (.append (by decide) (.number _))
  | otherType etherType =>
    exact .inl ((Printable.append (by decide) (.hexPadded 4 _)).append (by decide))
  | permitted flow rule queue =>
    exact .inl (((printable_ruleText flow rule).append (by decide)).append (.number _))
  | refused flow rule allowed =>
    exact .inl (((printable_ruleText flow rule).append (by decide)).append allowed.printable_text)
  | noAddressRule flow =>
    exact .inl ((Printable.append (by decide) (Protocol.printable_name _)).append (by decide))
  | laterFragment flow =>
    exact .inl ((Printable.append (by decide) (Protocol.printable_name _)).append (by decide))
  | unmatched flow =>
    have hfixed : Printable "no policy matched" := by decide
    exact .inl hfixed

/-- A finding is worded plainly if the error that it reports is. -/
theorem plain_text {f : Finding} (h : ∀ e ∈ f.error?, Plain e.message) : Plain f.text := by
  rcases f.printable_or_error with hprintable | ⟨e, he, htext⟩
  · exact hprintable.plain
  · rw [htext]
    exact h e he

theorem plain_text_of_valid {f : Finding} (h : f.isInvalid = false) : Plain f.text := by
  refine plain_text fun e he => ?_
  cases f with
  | unreadable | unreadableIpv6 | unreadableTransport => cases h
  | arp | otherType | permitted | refused | noAddressRule | laterFragment | unmatched => cases he

end Finding

end IngressGate
