import Mathlib.Algebra.Group.Nat.Defs
import IngressGate.Proofs.Frame.Headers
import IngressGate.Proofs.Text.Plain
/-!
# What readers report

What a reader reports when it fails depends on the names and lengths of the headers that it asks
for. So the longest report of each reader is known: all of them fit into the field of a message,
with one exception (`HeaderError.CutsLong`), which has one character too many.
-/
namespace IngressGate

/-! ## Lengths of texts -/

namespace Text

theorem length_number_le {n k : Nat} (h : n < 10 ^ k) (hk : 0 < k) : (toString n).length ≤ k :=
  (Nat.length_repr_le_iff hk).mpr h

theorem lt_length_number {n k : Nat} (h : 10 ^ k ≤ n) (hk : 0 < k) : k < (toString n).length :=
  Nat.lt_of_not_le fun hle => Nat.not_lt_of_le h ((Nat.length_repr_le_iff hk).mp hle)

theorem length_hexPadded {width n : Nat} (h : n < 16 ^ width) (hwidth : 0 < width) :
    (hexPadded width n).length = width := by
  have hdigits : (Nat.toDigits 16 n).length ≤ width :=
    (Nat.length_toDigits_le_iff (by decide) hwidth).mpr h
  rw [hexPadded, String.length_ofList, List.length_append, List.length_replicate]
  omega

end Text

open Text

/-- The text fits into the field of a message. -/
structure Message.Fits (text : String) : Prop where
  printable : Printable text
  length_le : text.length ≤ 63

/-! ## Reports that fit, and the one that does not -/

namespace HeaderError

/-- The report fits into the field of a message. -/
def Fits (e : HeaderError) : Prop := Message.Fits e.message

theorem length_truncated (header : String) (needed remaining : Nat) :
    (truncated header needed remaining).message.length =
      header.length + (toString needed).length + (toString remaining).length + 42 := by
  have hmessage : (truncated header needed remaining).message =
      header ++ " header truncated: need " ++ toString needed ++ " bytes, " ++
        toString remaining ++ " remaining" := rfl
  have hneed : " header truncated: need ".length = 24 := by decide
  have hbytes : " bytes, ".length = 8 := by decide
  have hremaining : " remaining".length = 10 := by decide
  simp only [hmessage, String.length_append, hneed, hbytes, hremaining]
  omega

theorem fits_truncated {header : String} {needed remaining : Nat} (hheader : Printable header)
    (hname : header.length ≤ 14) (hneeded : needed < 10 ^ 4) (hremaining : remaining < 10 ^ 3) :
    Fits (truncated header needed remaining) where
  printable := printable_truncated hheader needed remaining
  length_le := by
    have hneed : (toString needed).length ≤ 4 := length_number_le hneeded (by decide)
    have hrest : (toString remaining).length ≤ 3 := length_number_le hremaining (by decide)
    rw [length_truncated]
    omega

theorem fits_unsupportedExtension (type : UInt8) : Fits (unsupportedExtension type) where
  printable := printable_unsupportedExtension type
  length_le := by
    have hmessage : (unsupportedExtension type).message =
        "unsupported IPv6 extension header " ++ toString type.toNat := rfl
    have hfixed : "unsupported IPv6 extension header ".length = 34 := by decide
    have htype : (toString type.toNat).length ≤ 3 :=
      length_number_le (Nat.lt_trans type.toNat_lt (by decide)) (by decide)
    rw [hmessage, String.length_append, hfixed]
    omega

theorem fits_malformed (flaw : Flaw) : Fits (malformed flaw) where
  printable := printable_malformed flaw
  length_le := by cases flaw <;> decide

/-- An extension header is cut short of which at least a thousand bytes are there. -/
inductive CutsLong : HeaderError → Prop
  | intro {needed remaining : Nat} : needed ≤ 2048 → remaining < needed → 1000 ≤ remaining →
    CutsLong (truncated "ipv6 extension" needed remaining)

/-- The report of such an extension header is one character too long. -/
theorem CutsLong.message_eq {e : HeaderError} (h : CutsLong e) :
    ∃ start, e.message = start ++ "g" ∧ Printable start ∧ start.length = 63 := by
  obtain @⟨needed, remaining, hneeded, hlt, hlong⟩ := h
  have hneed : (toString needed).length = 4 :=
    Nat.le_antisymm (length_number_le (Nat.lt_of_le_of_lt hneeded (by decide)) (by decide))
      (lt_length_number (Nat.le_trans hlong (Nat.le_of_lt hlt)) (by decide))
  have hrest : (toString remaining).length = 4 :=
    Nat.le_antisymm (length_number_le (by omega) (by decide)) (lt_length_number hlong (by decide))
  have hmessage : (truncated "ipv6 extension" needed remaining).message =
      ("ipv6 extension" ++ " header truncated: need " ++ toString needed ++ " bytes, " ++
        toString remaining ++ " remainin") ++ "g" := by
    rw [String.append_assoc]
    rfl
  have hname : Printable "ipv6 extension" := by decide
  have hprintable := printable_truncated hname needed remaining
  have hlength := length_truncated "ipv6 extension" needed remaining
  rw [hmessage] at hprintable hlength ⊢
  refine ⟨_, rfl, (All.append_iff.mp hprintable).1, ?_⟩
  rw [String.length_append, hneed, hrest] at hlength
  have hheader : "ipv6 extension".length = 14 := by decide
  have hlast : "g".length = 1 := by decide
  omega

end HeaderError

/-! ## What the readers report -/

namespace Reader
variable {α β : Type} {P : HeaderError → Prop} {r : Reader α} {k : α → Reader β}

/-- Whatever the reader reports has a property. -/
def Reports (P : HeaderError → Prop) (r : Reader α) : Prop :=
  ∀ c e c', r c = .error e c' → P e

namespace Reports

theorem pure (a : α) : Reports P (pure a : Reader α) := by
  intro c e c' h
  cases h

theorem reject {e : HeaderError} (he : P e) : Reports P (reject e : Reader α) := by
  intro c e c' h
  cases h
  exact he

theorem bind (hr : Reports P r) (hk : ∀ a, Reports P (k a)) : Reports P (r >>= k) := by
  intro c e c' h
  cases hc : r c with
  | ok a d =>
    rw [bind_of_ok hc] at h
    exact hk a d e c' h
  | error e' d =>
    rw [bind_of_error hc] at h
    cases h
    exact hr c _ _ hc

variable {header : String} {n : Nat}

theorem peek (h : ∀ m < n, P (.truncated header n m)) : Reports P (peek header n) := by
  intro c e c' hc
  by_cases hn : n ≤ c.remaining
  · rw [peek_of_le hn] at hc
    cases hc
  · rw [peek_of_lt (Nat.lt_of_not_le hn)] at hc
    cases hc
    exact h _ (Nat.lt_of_not_le hn)

theorem skip (h : ∀ m < n, P (.truncated header n m)) : Reports P (skip header n) := by
  intro c e c' hc
  by_cases hn : n ≤ c.remaining
  · rw [skip_of_le hn] at hc
    cases hc
  · rw [skip_of_lt (Nat.lt_of_not_le hn)] at hc
    cases hc
    exact h _ (Nat.lt_of_not_le hn)

theorem take (h : ∀ m < n, P (.truncated header n m)) : Reports P (take header n) := by
  rw [take_eq]
  exact (peek h).bind fun b => (skip h).bind fun _ => pure b

end Reports

end Reader

open HeaderError Reader

/-- A header of less than a thousand bytes that is cut short makes a report that fits. -/
theorem HeaderError.fits_of_lt {header : String} {n : Nat} (hheader : Printable header)
    (hname : header.length ≤ 14) (hn : n ≤ 1000) (m : Nat) (hm : m < n) :
    Fits (.truncated header n m) :=
  fits_truncated hheader hname (by omega) (by omega)

theorem Ethernet.reports_read : Reports Fits read := by
  refine (Reports.take (fits_of_lt (by decide) (by decide) (by decide))).bind fun b => ?_
  dsimp only
  split
  · exact (Reports.take (fits_of_lt (by decide) (by decide) (by decide))).bind fun _ => .pure _
  · exact .pure _

theorem Ipv4.reports_read : Reports Fits read := by
  refine (Reports.peek (fits_of_lt (by decide) (by decide) (by decide))).bind fun b => ?_
  have hlength : (Header.ofFixed b).length ≤ 1000 := by
    rw [Header.length, Header.ofFixed, Bytes.toNat_and_fifteen]
    omega
  dsimp only
  split
  · exact .reject (fits_malformed _)
  split
  · exact .reject (fits_malformed _)
  · exact (Reports.skip (fits_of_lt (by decide) (by decide) hlength)).bind fun _ => .pure _

theorem Tcp.reports_read : Reports Fits read := by
  refine (Reports.take (fits_of_lt (by decide) (by decide) (by decide))).bind fun b => ?_
  dsimp only
  split
  · exact .reject (fits_malformed _)
  · exact .pure _

theorem Udp.reports_read : Reports Fits read :=
  (Reports.take (fits_of_lt (by decide) (by decide) (by decide))).bind fun _ => .pure _

namespace Ipv6

/-- What there is to report about an IPv6 header and its chain. -/
def Reported (e : HeaderError) : Prop := Fits e ∨ CutsLong e

namespace Chain

theorem reports_readFragment : Reports Reported readFragment :=
  (Reports.take fun m hm => .inl (fits_of_lt (by decide) (by decide) (by decide) m hm)).bind
    fun _ => .pure _

/-- The one long report is about a header whose length is in its second byte. -/
theorem reports_readSized {length : UInt8 → Nat} (h : ∀ n, length n ≤ 2048) :
    Reports Reported (readSized length) := by
  refine (Reports.peek fun m hm => .inl (fits_of_lt (by decide) (by decide) (by decide) m hm)).bind
    fun b => (Reports.skip fun m hm => ?_).bind fun _ => .pure _
  have hlength := h b[1]
  by_cases hlong : 1000 ≤ m
  · exact .inr ⟨hlength, hm, hlong⟩
  · exact .inl (fits_truncated (by decide) (by decide) (by omega) (by omega))

theorem reports_read (budget : Nat) (type : UInt8) (seen : Chain) :
    Reports Reported (read budget type seen) := by
  have hoptions : ∀ n, optionsLength n ≤ 2048 := fun n => by
    have hn := n.toNat_lt
    rw [optionsLength]
    omega
  have hauthentication : ∀ n, authenticationLength n ≤ 2048 := fun n => by
    have hn := n.toNat_lt
    rw [authenticationLength]
    omega
  induction budget generalizing type seen with
  | zero =>
    cases hlink : Link.ofType type <;> simp only [read.eq_def, hlink]
    case upperLayer => exact .pure _
    all_goals exact .reject (.inl (fits_unsupportedExtension type))
  | succ budget ih =>
    cases hlink : Link.ofType type <;> simp only [read, hlink]
    case upperLayer => exact .pure _
    case unsupported => exact .reject (.inl (fits_unsupportedExtension type))
    case fragment => exact reports_readFragment.bind fun _ => ih _ _
    case options => exact (reports_readSized hoptions).bind fun _ => ih _ _
    case authentication => exact (reports_readSized hauthentication).bind fun _ => ih _ _

end Chain

theorem reports_read : Reports Reported read := by
  refine (Reports.take fun m hm => .inl (fits_of_lt (by decide) (by decide) (by decide) m hm)).bind
    fun b => ?_
  dsimp only
  split
  · exact .reject (.inl (fits_malformed _))
  · exact (Chain.reports_read _ _ _).bind fun _ => .pure _

end Ipv6

end IngressGate
