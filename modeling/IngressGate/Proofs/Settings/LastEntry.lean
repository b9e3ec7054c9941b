import IngressGate.Proofs.Rule.Lookup
import IngressGate.Proofs.Rule.Protocols
import IngressGate.Proofs.Settings.Application
/-!
# The last entry of a key counts

The rule of a key follows from the settings file alone: the last entry of that key gives it, and it
permits the protocols that one of the names in this entry covers.
-/
namespace IngressGate

/-! ## Names -/

namespace ProtocolSet

theorem permits_union (a b : ProtocolSet) (protocol : UInt8) :
    (a.union b).permits protocol = true ↔
      a.permits protocol = true ∨ b.permits protocol = true := by
  simp only [permits_iff, union_and, ne_eq, UInt8.or_eq_zero_iff, not_and_or]

theorem permits_addNames {acc set : ProtocolSet} {names : List String}
    (h : addNames acc names = .ok set) (protocol : UInt8) :
    set.permits protocol = true ↔ acc.permits protocol = true ∨
      ∃ name ∈ names, ∃ part, ofName? name = some part ∧ part.permits protocol = true := by
  induction names generalizing acc with
  | nil =>
    cases h
    simp
  | cons name names ih =>
    rw [addNames, ofName] at h
    cases hname : ofName? name with
    | none =>
      rw [hname] at h
      cases h
    | some part =>
      rw [hname] at h
      rw [ih h, permits_union, or_assoc, List.exists_mem_cons_iff]
      simp [hname]

/-- A set of names permits what one of them permits. -/
theorem permits_ofNames {set : ProtocolSet} {names : List String} (h : ofNames names = .ok set)
    (protocol : UInt8) :
    set.permits protocol = true ↔
      ∃ name ∈ names, ∃ part, ofName? name = some part ∧ part.permits protocol = true := by
  rw [permits_addNames h]
  simp [permits, intersects, none]

end ProtocolSet

namespace Settings

/-! ## Entries -/

/-- The names in the last entry of a key. -/
def lastNames? (es : List (Key × List String)) (k : Key) : Option (List String) :=
  (es.filter (·.1 = k)).getLast?.map (·.2)

theorem lastNames?_append (es es' : List (Key × List String)) (k : Key) :
    lastNames? (es ++ es') k = (lastNames? es' k).or (lastNames? es k) := by
  rw [lastNames?, List.filter_append, List.getLast?_append, Option.map_or]
  rfl

theorem lastNames?_cons (e : Key × List String) (es : List (Key × List String)) (k : Key) :
    lastNames? (e :: es) k = (lastNames? es k).or (if e.1 = k then some e.2 else none) := by
  rw [← List.singleton_append, lastNames?_append]
  by_cases h : e.1 = k <;> simp [lastNames?, h]

/-- Entries that are read give a key the rule of its last entry, or leave it as it was. -/
theorem get?_addEntries {acc r : Ruling} {es : List (Key × List String)}
    (h : addEntries acc es = .ok r) (k : Key) :
    (∃ names set, lastNames? es k = some names ∧ ProtocolSet.ofNames names = .ok set ∧
        r.get? k = some set) ∨
      lastNames? es k = none ∧ r.get? k = acc.get? k := by
  induction es generalizing acc with
  | nil =>
    cases h
    exact .inr ⟨rfl, rfl⟩
  | cons e es ih =>
    rw [addEntries, entryRule] at h
    cases hnames : ProtocolSet.ofNames e.2 with
    | error cause =>
      rw [hnames] at h
      cases h
    | ok set =>
      rw [hnames] at h
      rw [lastNames?_cons]
      -- An entry counts only if no entry behind it has the same key.
      rcases ih h with ⟨names, set', hlast, hset', hget⟩ | ⟨hlast, hget⟩
      · exact .inl ⟨names, set', by simp [hlast], hset', hget⟩
      · rw [Ruling.get?_insert] at hget
        by_cases hk : e.1 = k
        · exact .inl ⟨e.2, set, by simp [hlast, hk], hnames, by rw [hget, if_pos hk.symm]⟩
        · exact .inr ⟨by simp [hlast, hk], by rw [hget, if_neg (Ne.symm hk)]⟩

theorem lastNames?_address (s : Settings) (a : Address) :
    lastNames? s.entries (.address a) =
      (s.whitelist.filter (·.address = a)).getLast?.map (·.protocols) := by
  simp [lastNames?, entries, List.filter_map, Function.comp_def]

theorem lastNames?_port (s : Settings) (p : UInt16) :
    lastNames? s.entries (.port p) = (s.ports.filter (·.port = p)).getLast?.map (·.protocols) := by
  simp [lastNames?, entries, List.filter_map, Function.comp_def]

end Settings

end IngressGate
