import IngressGate.Proofs.Rule.Batch
import IngressGate.Proofs.Rule.Protocols
import IngressGate.Proofs.Settings.LastEntry
/-!
# The rules that a document says

A document is read entry by entry: up to the first entry with a name that stands for no set, or to
the end, and then its rules are those of its entries, one after the other (`Settings.ruling_cases`).
-/
namespace IngressGate.Settings

open ProtocolSet (isUnknown unionOf ofName?)

variable {s : Settings} {r : Ruling} {k : Key}

/-- An entry has a name that stands for no set. -/
def isRefused (e : Key × List String) : Bool := e.2.any isUnknown

/-- The rules of all entries, in the order of the document. -/
def rules (s : Settings) : List (Key × ProtocolSet) := s.entries.map fun e => (e.1, unionOf e.2)

theorem entryRule_cases (e : Key × List String) :
    isRefused e = false ∧ entryRule e = .ok (e.1, unionOf e.2) ∨
      ∃ name, isRefused e = true ∧ e.2.find? isUnknown = some name ∧
        entryRule e = .error ⟨e.1, ⟨name⟩⟩ := by
  obtain ⟨hnone, hnames⟩ | ⟨name, hname, hnames⟩ := ProtocolSet.ofNames_cases e.2
  · refine .inl ⟨?_, by rw [entryRule, hnames]⟩
    rw [isRefused, List.any_eq_false]
    exact List.find?_eq_none.mp hnone
  · refine .inr ⟨name, ?_, hname, by rw [entryRule, hnames]⟩
    exact List.any_eq_true.mpr ⟨name, List.mem_of_find?_eq_some hname, List.find?_some hname⟩

theorem addEntries_cases (acc : Ruling) (es : List (Key × List String)) :
    es.find? isRefused = none ∧
        addEntries acc es = .ok (acc.insertAll (es.map fun e => (e.1, unionOf e.2))) ∨
      ∃ e name, es.find? isRefused = some e ∧ e.2.find? isUnknown = some name ∧
        addEntries acc es = .error ⟨e.1, ⟨name⟩⟩ := by
  induction es generalizing acc with
  | nil => exact .inl ⟨rfl, rfl⟩
  | cons e es ih =>
    rw [addEntries]
    obtain ⟨hfine, hrule⟩ | ⟨name, hrefused, hname, hrule⟩ := entryRule_cases e
    · rw [hrule, List.find?_cons_of_neg (by simp [hfine])]
      exact ih (acc.insert e.1 (unionOf e.2))
    · rw [hrule]
      exact .inr ⟨e, name, List.find?_cons_of_pos hrefused, hname, rfl⟩

/-- **What is read from a document**: the rules of all entries, one after the other, or the first
entry with an unknown name and the first such name in it. -/
theorem ruling_cases (s : Settings) :
    s.entries.find? isRefused = none ∧ s.ruling = .ok (.ofList s.rules) ∨
      ∃ e name, s.entries.find? isRefused = some e ∧ e.2.find? isUnknown = some name ∧
        s.ruling = .error ⟨e.1, ⟨name⟩⟩ :=
  addEntries_cases {} s.entries

theorem ruling_error_iff :
    (∃ bad, s.ruling = .error bad) ↔
      ∃ e ∈ s.entries, ∃ name ∈ e.2, ofName? name = none := by
  simp only [ProtocolSet.ofName?_eq_none_iff]
  exact addEntries_error_iff {} s.entries

/-- The last entry of a key counts, with all of its names. -/
theorem get?_ruling (h : s.ruling = .ok r) (k : Key) :
    r.get? k = (lastNames? s.entries k).map unionOf := by
  obtain ⟨names, set, hlast, hnames, hget⟩ | ⟨hlast, hget⟩ := get?_addEntries h k
  · rw [hlast, hget, ProtocolSet.eq_unionOf_of_ofNames hnames]
    rfl
  · rw [hlast, hget]
    exact Ruling.get?_empty k

theorem lastNames?_eq_none_iff {es : List (Key × List String)} :
    lastNames? es k = none ↔ k ∉ es.map Prod.fst := by
  rw [lastNames?, Option.map_eq_none_iff, List.getLast?_eq_none_iff, List.filter_eq_nil_iff,
    List.mem_map]
  constructor
  · rintro h ⟨e, he, hk⟩
    exact h e he (by simpa using hk)
  · intro h e he hk
    exact h ⟨e, he, by simpa using hk⟩

end IngressGate.Settings
