import Mathlib.Data.List.Perm.Basic
import IngressGate.Proofs.Rule.Undo
/-!
# Rules in bulk and one by one

A book takes a whole ruling after a look at the sizes of its tables, or it takes rule after rule,
each after a look at the room for one more. Both come to the same: one by one, a book takes all
rules exactly if the rules that are there in the end have room (`Book.insertAll_eq_ok_iff`). So
nothing depends on the order in which rules of different keys come.
-/
namespace IngressGate

namespace Assignment
variable {κ : Type} [DecidableEq κ] {k : κ} {v : ProtocolSet}

theorem find?_eq_some_iff {es : List (κ × ProtocolSet)} (hnodup : (es.map Prod.fst).Nodup) :
    find? k es = some v ↔ (k, v) ∈ es := by
  induction es with
  | nil => simp [find?]
  | cons e es ih =>
    obtain ⟨k', v'⟩ := e
    rw [List.map_cons, List.nodup_cons] at hnodup
    rw [find?, List.mem_cons, Prod.mk.injEq]
    split
    · next hk =>
      -- Another entry of this key would be a second one.
      have hother : (k, v) ∉ es := fun hmem =>
        hnodup.1 (hk ▸ List.mem_map.mpr ⟨(k, v), hmem, rfl⟩)
      simp [hk, hother, eq_comm]
    · next hk => simp [ih hnodup.2, Ne.symm hk]

theorem get?_eq_some_iff {m : Assignment κ} : m.get? k = some v ↔ (k, v) ∈ m.entries :=
  find?_eq_some_iff m.keys_nodup

end Assignment

namespace Ruling
variable {r r' : Ruling} {k : Key} {v : ProtocolSet} {es es' : List (Key × ProtocolSet)}

/-- Sets the values of keys, one after the other. -/
def insertAll (r : Ruling) (es : List (Key × ProtocolSet)) : Ruling :=
  es.foldl (fun r e => r.insert e.1 e.2) r

/-- All rules, table after table. -/
def entries (r : Ruling) : List (Key × ProtocolSet) :=
  (r.ipv4.entries.map fun e => (.address (.v4 e.1), e.2)) ++
    (r.ipv6.entries.map fun e => (.address (.v6 e.1), e.2)) ++
      r.ports.entries.map fun e => (.port e.1, e.2)

/-- No table has more rules than it has room for. -/
def Fits (r : Ruling) : Prop := ∀ t : TableKind, r.size t ≤ t.capacity

theorem ofList_eq (es : List (Key × ProtocolSet)) : ofList es = insertAll {} es := rfl

theorem insertAll_cons (r : Ruling) (e : Key × ProtocolSet)
    (es : List (Key × ProtocolSet)) :
    r.insertAll (e :: es) = (r.insert e.1 e.2).insertAll es := rfl

/-! ## Sizes -/

theorem size_le_insert (r : Ruling) (k : Key) (v : ProtocolSet) (t : TableKind) :
    r.size t ≤ (r.insert k v).size t := by
  rw [← r.length_keys, ← (r.insert k v).length_keys]
  refine List.Subperm.length_le (List.subperm_of_subset (r.nodup_keys t) fun x hx => ?_)
  exact mem_keys_insert.mpr (.inr hx)

theorem size_le_insertAll (r : Ruling) (es : List (Key × ProtocolSet)) (t : TableKind) :
    r.size t ≤ (r.insertAll es).size t := by
  induction es generalizing r with
  | nil => exact Nat.le_refl _
  | cons e es ih => exact Nat.le_trans (r.size_le_insert e.1 e.2 t) (ih (r.insert e.1 e.2))

/-- A new key takes room in its table. -/
theorem size_lt_insert (hk : r.get? k = none) (v : ProtocolSet) :
    r.size k.table < (r.insert k v).size k.table := by
  have hnew : k ∉ r.keys k.table := by
    intro hmem
    have hsome := (mem_keys_iff.mp hmem).2
    rw [hk] at hsome
    cases hsome
  have hnodup : (k :: r.keys k.table).Nodup := List.nodup_cons.mpr ⟨hnew, r.nodup_keys _⟩
  have hsub : k :: r.keys k.table ⊆ (r.insert k v).keys k.table := by
    intro x hx
    obtain rfl | hx := List.mem_cons.mp hx
    · exact mem_keys_insert.mpr (.inl ⟨rfl, rfl⟩)
    · exact mem_keys_insert.mpr (.inr hx)
  have hlength := (List.subperm_of_subset hnodup hsub).length_le
  rwa [List.length_cons, length_keys, length_keys] at hlength

theorem fits_congr (h : ∀ k, r'.get? k = r.get? k) : r'.Fits ↔ r.Fits := by
  refine forall_congr' fun t => ?_
  have hsize : r'.size t = r.size t := size_congr (fun k => by rw [h]) t
  rw [hsize]

/-! ## Lookups -/

theorem get?_insertAll_of_notMem (hk : k ∉ es.map Prod.fst) :
    (r.insertAll es).get? k = r.get? k := by
  induction es generalizing r with
  | nil => rfl
  | cons e es ih =>
    rw [List.map_cons, List.mem_cons, not_or] at hk
    rw [insertAll_cons, ih hk.2, get?_insert, if_neg hk.1]

theorem get?_insertAll_of_mem (hnodup : (es.map Prod.fst).Nodup) (he : (k, v) ∈ es) :
    (r.insertAll es).get? k = some v := by
  induction es generalizing r with
  | nil => cases he
  | cons e es ih =>
    rw [List.map_cons, List.nodup_cons] at hnodup
    rw [insertAll_cons]
    obtain rfl | he := List.mem_cons.mp he
    · -- No later rule has this key.
      rw [get?_insertAll_of_notMem hnodup.1, get?_insert, if_pos rfl]
    · exact ih hnodup.2 he

/-- Rules of different keys can come in any order. -/
theorem get?_insertAll_perm (h : es.Perm es') (hnodup : (es.map Prod.fst).Nodup) (k : Key) :
    (r.insertAll es').get? k = (r.insertAll es).get? k := by
  have hkeys : (es.map Prod.fst).Perm (es'.map Prod.fst) := h.map Prod.fst
  by_cases hk : k ∈ es.map Prod.fst
  · obtain ⟨⟨k, v⟩, he, rfl⟩ := List.mem_map.mp hk
    rw [get?_insertAll_of_mem hnodup he,
      get?_insertAll_of_mem (hkeys.nodup_iff.mp hnodup) (h.mem_iff.mp he)]
  · rw [get?_insertAll_of_notMem hk, get?_insertAll_of_notMem fun hk' => hk (hkeys.mem_iff.mpr hk')]

theorem map_fst_entries (r : Ruling) :
    r.entries.map Prod.fst =
      r.keys .ipv4Addresses ++ r.keys .ipv6Addresses ++ r.keys .ports := by
  simp [entries, keys, Assignment.keys, Function.comp_def]

theorem nodup_map_fst_entries (r : Ruling) : (r.entries.map Prod.fst).Nodup := by
  have hdisjoint {t t' : TableKind} (ht : t ≠ t') : (r.keys t).Disjoint (r.keys t') := by
    intro k hk hk'
    exact ht ((mem_keys_iff.mp hk).1.symm.trans (mem_keys_iff.mp hk').1)
  rw [map_fst_entries]
  refine .append (.append (r.nodup_keys _) (r.nodup_keys _) ?_) (r.nodup_keys _) ?_
  · exact hdisjoint (by decide)
  · exact List.disjoint_append_left.mpr ⟨hdisjoint (by decide), hdisjoint (by decide)⟩

theorem mem_entries_iff : (k, v) ∈ r.entries ↔ r.get? k = some v := by
  rcases k with (a | a) | p <;> simp [entries, get?, Assignment.get?_eq_some_iff]

/-- A ruling is made anew from its rules, in any order. -/
theorem get?_ofList_of_perm (h : es.Perm r.entries) (k : Key) :
    (ofList es).get? k = r.get? k := by
  have hnodup : (es.map Prod.fst).Nodup :=
    (h.map Prod.fst).nodup_iff.mpr r.nodup_map_fst_entries
  rw [ofList_eq]
  cases hk : r.get? k with
  | some v => exact get?_insertAll_of_mem hnodup (h.mem_iff.mpr (mem_entries_iff.mpr hk))
  | none =>
    rw [get?_insertAll_of_notMem, get?_empty]
    intro hmem
    obtain ⟨⟨k', v⟩, he, rfl⟩ := List.mem_map.mp hmem
    rw [mem_entries_iff.mp (h.mem_iff.mp he)] at hk
    cases hk

end Ruling

namespace Book
variable {b b' : Book} {r : Ruling} {es es' : List (Key × ProtocolSet)}

/-- Sets the values of keys, one after the other, as long as there is room. -/
def insertAll (b : Book) (es : List (Key × ProtocolSet)) : Except CapacityExceeded Book :=
  es.foldlM (fun b e => b.insert e.1 e.2) b

theorem ofRuling_eq_ok_iff : ofRuling r = .ok b ↔ b.ruling = r := by
  rw [ofRuling_ok_iff, ruling, Ruling.mk.injEq]

theorem fits_ruling (b : Book) : b.ruling.Fits := fun t => b.size_eq_ruling t ▸ b.size_le t

theorem exists_ruling_eq_iff : (∃ b : Book, b.ruling = r) ↔ r.Fits := by
  simp only [← ofRuling_eq_ok_iff, exists_ofRuling_iff, Ruling.length_keys]
  rfl

/-- A book that can take a rule takes it. -/
theorem insert_of_fits {k : Key} {v : ProtocolSet} (h : (b.ruling.insert k v).Fits) :
    ∃ b', b.insert k v = .ok b' ∧ b'.ruling = b.ruling.insert k v := by
  refine insert_accepted ?_
  cases hk : b.get? k with
  | some old => exact .inl rfl
  | none =>
    rw [get?_eq_ruling] at hk
    have hlt := Ruling.size_lt_insert hk v
    rw [size_eq_ruling]
    exact .inr (Nat.lt_of_lt_of_le hlt (h k.table))

/-- **One by one, a book takes all rules exactly if those that it has in the end have room.** -/
theorem insertAll_eq_ok_iff : b.insertAll es = .ok b' ↔ b'.ruling = b.ruling.insertAll es := by
  induction es generalizing b with
  | nil =>
    constructor
    · intro h
      cases h
      rfl
    · intro h
      exact congrArg Except.ok (ruling_injective h).symm
  | cons e es ih =>
    rw [insertAll, List.foldlM_cons, Ruling.insertAll_cons]
    constructor
    · intro h
      obtain ⟨c, hinsert, hrest⟩ := ok_of_bind_eq_ok h
      rw [← ruling_insert hinsert]
      exact ih.mp hrest
    · intro h
      -- Tables never shrink on the way, so what fits in the end fits after the first rule.
      have hfits : (b.ruling.insert e.1 e.2).Fits := fun t =>
        Nat.le_trans ((b.ruling.insert e.1 e.2).size_le_insertAll es t) (h ▸ b'.fits_ruling t)
      obtain ⟨c, hinsert, hc⟩ := insert_of_fits hfits
      rw [hinsert]
      exact ih.mpr (by rw [h, hc])

theorem exists_insertAll_iff : (∃ b', b.insertAll es = .ok b') ↔ (b.ruling.insertAll es).Fits := by
  simp only [insertAll_eq_ok_iff, exists_ruling_eq_iff]

end Book

end IngressGate
