import Mathlib.Tactic.Common
import IngressGate.Proofs.Decision.Stages
/-!
# Sets of protocols and their bits

When a set has all bits of another one, and when two sets have the same of the two bits that count
for packets with ports. The sets of names are unions, and so neither the order nor the repetition of
names matters (`ProtocolSet.unionOf_congr`).
-/
namespace IngressGate.ProtocolSet

variable {a b c : ProtocolSet}

/-- What a union has of some bits is what its parts have of them. -/
theorem union_and (a b : ProtocolSet) (bits : UInt8) :
    (a.union b).bits &&& bits = a.bits &&& bits ||| b.bits &&& bits := by
  rw [← UInt8.toNat_inj]
  simp only [union, UInt8.toNat_and, UInt8.toNat_or, Nat.and_or_distrib_right]

/-! ## Inclusion -/

/-- A set has no other bits than another one. -/
instance : HasSubset ProtocolSet := ⟨fun a b => a.bits &&& b.bits = a.bits⟩

theorem subset_iff_getElem :
    a ⊆ b ↔ ∀ (i : Nat) (hi : i < 8), a.bits.toBitVec[i] = true → b.bits.toBitVec[i] = true := by
  have hbits : a ⊆ b ↔ a.bits.toBitVec &&& b.bits.toBitVec = a.bits.toBitVec :=
    UInt8.toBitVec_inj.symm
  rw [hbits, BitVec.eq_of_getElem_eq_iff]
  simp

theorem subset_refl (a : ProtocolSet) : a ⊆ a := UInt8.and_self

theorem subset_antisymm (h : a ⊆ b) (h' : b ⊆ a) : a = b := by
  have hbits : a.bits &&& b.bits = a.bits := h
  have hbits' : b.bits &&& a.bits = b.bits := h'
  have heq : a.bits = b.bits := by rw [← hbits, UInt8.and_comm, hbits']
  cases a
  cases b
  exact congrArg mk heq

theorem permits_of_subset (h : a ⊆ b) {protocol : UInt8} (ha : a.permits protocol = true) :
    b.permits protocol = true := by
  have hbits : a.bits &&& b.bits = a.bits := h
  rw [permits_iff] at ha ⊢
  intro hb
  refine ha ?_
  rw [← hbits, UInt8.and_assoc, hb, UInt8.and_zero]

theorem union_subset_iff : a.union b ⊆ c ↔ a ⊆ c ∧ b ⊆ c := by
  simp only [subset_iff_getElem, union, UInt8.toBitVec_or, BitVec.getElem_or, Bool.or_eq_true,
    or_imp, forall_and]

theorem none_subset (a : ProtocolSet) : none ⊆ a := UInt8.zero_and

/-! ## Protocols with ports and without -/

/-- The set of the two protocols with ports. -/
def withPorts : ProtocolSet := tcp.union udp

/-- The set of the two protocols of control messages. -/
def control : ProtocolSet := icmp.union icmpv6

/-- The protocols of the first set that are not in the second. -/
def without (a b : ProtocolSet) : ProtocolSet := ⟨a.bits &&& ~~~b.bits⟩

/-- Two sets have the same protocols with ports; all other bits are left open. -/
def SamePorts (a b : ProtocolSet) : Prop := a.bits &&& withPorts.bits = b.bits &&& withPorts.bits

theorem SamePorts.permits_eq (h : SamePorts a b) {protocol : UInt8}
    (hp : protocol = 6 ∨ protocol = 17) : b.permits protocol = a.permits protocol := by
  have hcovered : withPorts.bits &&& (ofProtocol protocol).bits = (ofProtocol protocol).bits := by
    obtain rfl | rfl := hp
    · rfl
    · rfl
  have hbits : b.bits &&& (ofProtocol protocol).bits = a.bits &&& (ofProtocol protocol).bits := by
    rw [← hcovered, ← UInt8.and_assoc, ← UInt8.and_assoc, h]
  rw [permits, permits, intersects, intersects, hbits]

/-- Control messages have no ports. -/
theorem withPorts_and_of_subset (hc : c ⊆ control) : withPorts.bits &&& c.bits = 0 := by
  have hbits : c.bits &&& control.bits = c.bits := hc
  have hdisjoint : withPorts.bits &&& control.bits = 0 := rfl
  rw [← hbits, UInt8.and_comm c.bits, ← UInt8.and_assoc, hdisjoint, UInt8.zero_and]

/-- Control messages can be added to a set. -/
theorem samePorts_union (a : ProtocolSet) (hc : c ⊆ control) : SamePorts a (a.union c) := by
  rw [SamePorts, union_and, UInt8.and_comm c.bits, withPorts_and_of_subset hc, UInt8.or_zero]

/-- Control messages can be taken from a set. -/
theorem samePorts_without (a : ProtocolSet) (hc : c ⊆ control) : SamePorts a (a.without c) := by
  have hrest : withPorts.bits &&& ~~~c.bits = withPorts.bits := by
    have hnone := withPorts_and_of_subset hc
    rw [← UInt8.toBitVec_inj] at hnone ⊢
    ext i hi
    have hbit := congrArg (·[i]) hnone
    simpa using hbit
  rw [SamePorts, without, UInt8.and_assoc, UInt8.and_comm (~~~c.bits), hrest]

/-! ## Names -/

/-- A name stands for no set. -/
def isUnknown (name : String) : Bool := (ofName? name).isNone

/-- All bits of the sets that names stand for. -/
def unionOf (names : List String) : ProtocolSet := (names.filterMap ofName?).foldr union none

theorem unionOf_cons {name : String} {set : ProtocolSet} (h : ofName? name = some set)
    (names : List String) : unionOf (name :: names) = set.union (unionOf names) := by
  rw [unionOf, List.filterMap_cons_some h, List.foldr_cons, unionOf]

theorem union_assoc (a b c : ProtocolSet) : (a.union b).union c = a.union (b.union c) :=
  congrArg mk (UInt8.or_assoc a.bits b.bits c.bits)

/-- Names are read up to the first one that stands for no set. -/
theorem addNames_cases (acc : ProtocolSet) (names : List String) :
    names.find? isUnknown = Option.none ∧ addNames acc names = .ok (acc.union (unionOf names)) ∨
      ∃ name, names.find? isUnknown = some name ∧ addNames acc names = .error ⟨name⟩ := by
  induction names generalizing acc with
  | nil => exact .inl ⟨rfl, congrArg (Except.ok ∘ mk) UInt8.or_zero.symm⟩
  | cons name names ih =>
    rw [addNames, ofName]
    cases hname : ofName? name with
    | none =>
      have hunknown : isUnknown name = true := by rw [isUnknown, hname]; rfl
      exact .inr ⟨name, List.find?_cons_of_pos hunknown, rfl⟩
    | some set =>
      have hknown : ¬isUnknown name = true := by simp [isUnknown, hname]
      rw [List.find?_cons_of_neg hknown, unionOf_cons hname, ← union_assoc]
      exact ih (acc.union set)

theorem ofNames_cases (names : List String) :
    names.find? isUnknown = Option.none ∧ ofNames names = .ok (unionOf names) ∨
      ∃ name, names.find? isUnknown = some name ∧ ofNames names = .error ⟨name⟩ := by
  have hzero : none.union (unionOf names) = unionOf names := congrArg mk UInt8.zero_or
  rw [ofNames, ← hzero]
  exact addNames_cases none names

theorem eq_unionOf_of_ofNames {set : ProtocolSet} {names : List String}
    (h : ofNames names = .ok set) : set = unionOf names := by
  obtain ⟨-, hnames⟩ | ⟨name, -, hnames⟩ := ofNames_cases names
  · exact Except.ok.inj (h.symm.trans hnames)
  · rw [hnames] at h
    cases h

/-- The union of names is the least set that has all of their sets. -/
theorem unionOf_subset_iff {names : List String} :
    unionOf names ⊆ c ↔ ∀ name ∈ names, ∀ set, ofName? name = some set → set ⊆ c := by
  induction names with
  | nil => simp [unionOf, none_subset]
  | cons name names ih =>
    rw [List.forall_mem_cons, ← ih]
    cases hname : ofName? name with
    | none => simp [unionOf, hname]
    | some set => simp [unionOf_cons hname, union_subset_iff]

/-- Neither the order nor the repetition of names matters. -/
theorem unionOf_congr {names names' : List String} (h : ∀ name, name ∈ names ↔ name ∈ names') :
    unionOf names = unionOf names' := by
  refine subset_antisymm (unionOf_subset_iff.mpr ?_) (unionOf_subset_iff.mpr ?_)
  · intro name hname
    exact unionOf_subset_iff.mp (subset_refl _) name ((h name).mp hname)
  · intro name hname
    exact unionOf_subset_iff.mp (subset_refl _) name ((h name).mpr hname)

end IngressGate.ProtocolSet
