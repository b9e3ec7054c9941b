import Mathlib.Data.List.Nodup
import IngressGate.Rule.Book
/-!
# The keys of a ruling

Which keys a ruling has in each of its tables, what one more rule does to them, and when they are
few enough for a book. The keys of all tables are values of one type, so that each statement is made
for the three tables at once.
-/
namespace IngressGate

theorem Key.address_injective : Function.Injective address := fun _ _ => address.inj

theorem Key.port_injective : Function.Injective port := fun _ _ => port.inj

namespace Assignment
variable {κ : Type} [DecidableEq κ]

/-- The keys of an assignment. -/
def keys (m : Assignment κ) : List κ := m.entries.map Prod.fst

omit [DecidableEq κ] in
theorem length_keys (m : Assignment κ) : m.keys.length = m.size := List.length_map ..

theorem mem_keys_insert {m : Assignment κ} {k x : κ} {v : ProtocolSet} :
    x ∈ (m.insert k v).keys ↔ x = k ∨ x ∈ m.keys :=
  mem_keys_put m.entries

end Assignment

namespace Ruling

/-- The keys of one table. -/
def keys (r : Ruling) : TableKind → List Key
  | .ipv4Addresses => r.ipv4.keys.map fun a => .address (.v4 a)
  | .ipv6Addresses => r.ipv6.keys.map fun a => .address (.v6 a)
  | .ports => r.ports.keys.map .port

/-- How many keys a table has. -/
def size (r : Ruling) : TableKind → Nat
  | .ipv4Addresses => r.ipv4.size
  | .ipv6Addresses => r.ipv6.size
  | .ports => r.ports.size

theorem length_keys (r : Ruling) (t : TableKind) : (r.keys t).length = r.size t := by
  cases t <;> exact (List.length_map ..).trans (Assignment.length_keys _)

theorem nodup_keys (r : Ruling) (t : TableKind) : (r.keys t).Nodup := by
  cases t with
  | ipv4Addresses => exact r.ipv4.keys_nodup.map fun _ _ h => by cases h; rfl
  | ipv6Addresses => exact r.ipv6.keys_nodup.map fun _ _ h => by cases h; rfl
  | ports => exact r.ports.keys_nodup.map fun _ _ h => by cases h; rfl

@[simp] theorem keys_empty (t : TableKind) : keys {} t = [] := by cases t <;> rfl

/-- A rule adds its key to its own table, and none to the other two. -/
theorem mem_keys_insert {r : Ruling} {t : TableKind} {k x : Key} {v : ProtocolSet} :
    x ∈ (r.insert k v).keys t ↔ x = k ∧ k.table = t ∨ x ∈ r.keys t := by
  cases k with
  | address a =>
    cases a <;> cases t <;> simp [insert, keys, Key.table, Assignment.mem_keys_insert, eq_comm]
  | port p => cases t <;> simp [insert, keys, Key.table, Assignment.mem_keys_insert, eq_comm]

end Ruling

theorem Table.ofAssignment_ok_iff {κ : Type} {kind : TableKind} {capacity : Nat}
    {m : Assignment κ} {t : Table κ kind capacity} : ofAssignment m = .ok t ↔ t.rules = m := by
  constructor
  · intro h
    rw [ofAssignment] at h
    split at h
    · cases h
      rfl
    · cases h
  · rintro rfl
    exact dif_pos t.size_le

/-- Of two steps that succeed, the first one does. -/
theorem ok_of_bind_eq_ok {ε α β : Type} {x : Except ε α} {k : α → Except ε β} {b : β}
    (h : (x >>= k) = .ok b) : ∃ a, x = .ok a ∧ k a = .ok b := by
  cases x with
  | error e => cases h
  | ok a => exact ⟨a, rfl, h⟩

namespace Book

/-- A book made from a ruling has its rules. -/
theorem ofRuling_ok_iff {r : Ruling} {b : Book} :
    ofRuling r = .ok b ↔
      b.ipv4.rules = r.ipv4 ∧ b.ipv6.rules = r.ipv6 ∧ b.ports.rules = r.ports := by
  constructor
  · intro h
    obtain ⟨t4, h4, h⟩ := ok_of_bind_eq_ok h
    obtain ⟨t6, h6, h⟩ := ok_of_bind_eq_ok h
    obtain ⟨tp, hp, h⟩ := ok_of_bind_eq_ok h
    cases h
    exact ⟨Table.ofAssignment_ok_iff.mp h4, Table.ofAssignment_ok_iff.mp h6,
      Table.ofAssignment_ok_iff.mp hp⟩
  · rintro ⟨h4, h6, hp⟩
    rw [ofRuling, Table.ofAssignment_ok_iff.mpr h4, Table.ofAssignment_ok_iff.mpr h6,
      Table.ofAssignment_ok_iff.mpr hp]
    rfl

/-- A book takes a ruling exactly if no table has more keys than it has room for. -/
theorem exists_ofRuling_iff (r : Ruling) :
    (∃ b, ofRuling r = .ok b) ↔ ∀ t : TableKind, (r.keys t).length ≤ t.capacity := by
  simp only [ofRuling_ok_iff]
  constructor
  · rintro ⟨b, h4, h6, hp⟩ t
    rw [r.length_keys]
    cases t with
    | ipv4Addresses =>
      rw [Ruling.size, ← h4]
      exact b.ipv4.size_le
    | ipv6Addresses =>
      rw [Ruling.size, ← h6]
      exact b.ipv6.size_le
    | ports =>
      rw [Ruling.size, ← hp]
      exact b.ports.size_le
  · intro h
    simp only [r.length_keys] at h
    exact ⟨⟨⟨r.ipv4, h .ipv4Addresses⟩, ⟨r.ipv6, h .ipv6Addresses⟩, ⟨r.ports, h .ports⟩⟩,
      rfl, rfl, rfl⟩

end Book

end IngressGate
