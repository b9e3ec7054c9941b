import IngressGate.Proofs.Rule.History
import IngressGate.Proofs.Rule.Lookup
/-!
# Tables and books are bounded maps

A table of any capacity, and a book with its three tables, do on every request what the laws of a
store say. So each of them is a bounded map in which the last write counts, over every history of
requests.
-/
namespace IngressGate

/-- What comes of a request that a state may refuse. -/
def Reply.ofExcept {σ : Type} (s : σ) : Except CapacityExceeded σ → Reply × σ
  | .ok s' => (.done, s')
  | .error e => (.refused e, s)

namespace Table
variable {κ : Type} [DecidableEq κ] {kind : TableKind} {capacity : Nat}

/-- What a table does on a request. -/
def perform (t : Table κ kind capacity) :
    Request κ (Assignment κ) → Reply × Table κ kind capacity
  | .insert k v => Reply.ofExcept t (t.insert k v)
  | .erase k => (.erased (t.erase k).1, (t.erase k).2)
  | .replace m => Reply.ofExcept t (ofAssignment m)

variable (κ kind capacity)

/-- A table as a store. -/
def store : Store (Table κ kind capacity) κ Unit (Assignment κ) where
  empty := empty
  get? := get?
  size t _ := t.size
  perform := perform
  table _ := ()
  full _ := ⟨kind, capacity⟩
  value? := Assignment.get?

theorem count_store (m : Assignment κ) (t : Unit) :
    (store κ kind capacity).count m.get? t = m.size := by
  simp [Store.count, store, m.ncard_isSome_get?]

theorem lawful_store : (store κ kind capacity).Lawful where
  get?_empty k := rfl
  finite t _ := by simpa [store, get?] using t.rules.finite_isSome_get?
  size_eq t u := (count_store κ kind capacity t.rules u).symm
  size_le t _ := t.size_le
  insert_refused {t k} v hk hfull := by
    have hinsert : t.insert k v = .error ⟨kind, capacity⟩ := insert_refused hk hfull
    simp only [store, perform, hinsert, Reply.ofExcept]
  insert_accepted {t k} v h := by
    obtain ⟨t', hinsert, hrules⟩ := insert_accepted (v := v) h
    refine ⟨t', ?_, fun x => ?_⟩
    · simp only [store, perform, hinsert, Reply.ofExcept]
    · change t'.rules.get? x = _
      rw [hrules, Assignment.get?_insert]
      rfl
  erase t k := ⟨(t.erase k).2, rfl, t.rules.get?_erase k⟩
  replace t m := by
    rcases Nat.lt_or_ge capacity m.size with hlarge | hfits
    · have hm : (ofAssignment m : Except _ (Table κ kind capacity)) = .error ⟨kind, capacity⟩ :=
        ofAssignment_of_lt hlarge
      refine .inr ⟨(), ?_, ?_⟩
      · simp only [store, perform, hm, Reply.ofExcept]
      · exact Nat.lt_of_lt_of_eq hlarge (count_store κ kind capacity m ()).symm
    · have hm : (ofAssignment m : Except _ (Table κ kind capacity)) = .ok ⟨m, hfits⟩ :=
        ofAssignment_of_le hfits
      refine .inl ⟨⟨m, hfits⟩, ?_, fun x => rfl⟩
      simp only [store, perform, hm, Reply.ofExcept]

end Table

namespace Book

/-- What a book does on a request. -/
def perform (b : Book) : Request Key Ruling → Reply × Book
  | .insert k v => Reply.ofExcept b (b.insert k v)
  | .erase k => (.erased (b.erase k).1, (b.erase k).2)
  | .replace r => Reply.ofExcept b (ofRuling r)

/-- A book as a store. -/
def store : Store Book Key TableKind Ruling where
  empty := empty
  get? := get?
  size := size
  perform := perform
  table := Key.table
  full t := ⟨t, t.capacity⟩
  value? := Ruling.get?

theorem count_store (r : Ruling) (t : TableKind) : store.count r.get? t = r.size t :=
  r.ncard_isSome_get? t

theorem get?_eq_get?_ruling (b : Book) : b.get? = b.ruling.get? := funext b.get?_eq_ruling

theorem lawful_store : store.Lawful where
  get?_empty k := by
    rcases k with (a | a) | p <;> rfl
  finite b t := by
    have hkeys :
        {k | k.table = t ∧ (b.get? k).isSome} = ((b.ruling.keys t).toFinset : Set Key) := by
      rw [get?_eq_get?_ruling, Ruling.setOf_isSome_get?]
    exact hkeys ▸ Finset.finite_toSet _
  size_eq b t := by
    change b.size t = store.count b.get? t
    rw [get?_eq_get?_ruling, count_store, size_eq_ruling]
  size_le := size_le
  insert_refused {b k} v hk hfull := by
    have hinsert : b.insert k v = .error ⟨k.table, k.table.capacity⟩ := insert_refused hk hfull
    simp only [store, perform, hinsert, Reply.ofExcept]
  insert_accepted {b k} v h := by
    obtain ⟨b', hinsert, hrules⟩ := insert_accepted (v := v) h
    refine ⟨b', ?_, fun x => ?_⟩
    · simp only [store, perform, hinsert, Reply.ofExcept]
    · change b'.get? x = if x = k then some v else b.get? x
      rw [get?_eq_ruling, hrules, Ruling.get?_insert, ← get?_eq_ruling]
  erase b k := by
    refine ⟨(b.erase k).2, ?_, b.get?_erase k⟩
    change (Reply.erased (b.erase k).1, (b.erase k).2) = _
    rw [erase_found]
    rfl
  replace b r := by
    rcases ofRuling_eq r with ⟨b', -, hr, rfl⟩ | ⟨t, hlarge, hr⟩
    · refine .inl ⟨b', ?_, b'.get?_eq_ruling⟩
      simp only [store, perform, hr, Reply.ofExcept]
    · refine .inr ⟨t, ?_, ?_⟩
      · simp only [store, perform, hr, Reply.ofExcept]
      · exact Nat.lt_of_lt_of_eq (Ruling.lt_of_overfull? hlarge) (count_store r t).symm

end Book

/-- **Tables and books are bounded maps in which the last write counts**, a table for every kind of
keys and every capacity, and a book with its three tables. -/
theorem rules_are_boundedMaps :
    (∀ (κ : Type) [DecidableEq κ] (kind : TableKind) (capacity : Nat),
      (Table.store κ kind capacity).IsBoundedMap) ∧
    Book.store.IsBoundedMap ∧
    (Book.store.full .ipv4Addresses).capacity = 1024 ∧
    (Book.store.full .ipv6Addresses).capacity = 1024 ∧ (Book.store.full .ports).capacity = 128 :=
  ⟨fun κ _ kind capacity => (Table.lawful_store κ kind capacity).isBoundedMap,
    Book.lawful_store.isBoundedMap, rfl, rfl, rfl⟩

/-- A table with room for one rule, and one with room for none. -/
theorem smallTable_replies :
    (Table.store UInt16 .ports 1).reply [.insert 80 .tcp] (.insert 53 .udp) =
        .refused ⟨.ports, 1⟩ ∧
      (Table.store UInt16 .ports 1).reply [.insert 80 .tcp] (.insert 80 .udp) = .done ∧
      (Table.store UInt16 .ports 1).reply [.insert 80 .tcp, .erase 80] (.insert 53 .udp) = .done ∧
      (Table.store UInt16 .ports 0).reply [] (.insert 53 .udp) = .refused ⟨.ports, 0⟩ :=
  have hone := rules_are_boundedMaps.1 UInt16 .ports 1
  have hzero := rules_are_boundedMaps.1 UInt16 .ports 0
  ⟨(hone.insert_refused_iff _ _ _ _).mpr ⟨rfl, rfl, rfl⟩,
    (hone.insert_done_iff _ _ _).mpr (.inl rfl),
    hone.insert_after_erase [.insert 80 .tcp] 80 rfl 53 .udp rfl,
    (hzero.insert_refused_iff _ _ _ _).mpr ⟨rfl, rfl, rfl⟩⟩

end IngressGate
