import Mathlib.Data.Set.Card
import IngressGate.Proofs.Rule.Keys
/-!
# Looking up rules

What a lookup gives after each operation on assignments, tables, rulings and books, and the number
of rules as the number of keys that have one. No later proof looks into the list of entries.
-/
namespace IngressGate

namespace Assignment
variable {κ : Type} [DecidableEq κ]

theorem find?_eq_none_iff {k : κ} {es : List (κ × ProtocolSet)} :
    find? k es = none ↔ k ∉ es.map Prod.fst := by
  induction es with
  | nil => simp [find?]
  | cons e es ih =>
    rw [find?, List.map_cons, List.mem_cons, not_or]
    split
    · next he => simp [he]
    · next he => rw [ih, and_iff_right (Ne.symm he)]

theorem find?_put {k x : κ} {v : ProtocolSet} (es : List (κ × ProtocolSet)) :
    find? x (put k v es) = if x = k then some v else find? x es := by
  induction es with
  | nil => simp [put, find?, eq_comm]
  | cons e es ih =>
    obtain ⟨k', v'⟩ := e
    rw [put]
    by_cases hk : k' = k
    · subst hk
      by_cases hx : x = k'
      · simp [find?, hx]
      · simp [find?, hx, Ne.symm hx]
    · rw [if_neg hk, find?, find?, ih]
      by_cases hx : k' = x
      · subst hx
        simp [hk]
      · simp [hx]

theorem find?_filter_ne {k x : κ} (es : List (κ × ProtocolSet)) :
    find? x (es.filter fun e => e.1 ≠ k) = if x = k then none else find? x es := by
  induction es with
  | nil => simp [find?]
  | cons e es ih =>
    obtain ⟨k', v'⟩ := e
    by_cases hk : k' = k
    · subst hk
      by_cases hx : x = k'
      · simpa [hx] using ih
      · simpa [hx, find?, Ne.symm hx] using ih
    · by_cases hx : k' = x
      · subst hx
        simp [hk, find?]
      · simpa [hk, hx, find?] using ih

@[simp] theorem get?_insert (m : Assignment κ) (k x : κ) (v : ProtocolSet) :
    (m.insert k v).get? x = if x = k then some v else m.get? x := find?_put m.entries

@[simp] theorem get?_erase (m : Assignment κ) (k x : κ) :
    (m.erase k).get? x = if x = k then none else m.get? x := find?_filter_ne m.entries

theorem isSome_get?_iff (m : Assignment κ) (k : κ) : (m.get? k).isSome ↔ k ∈ m.keys := by
  rw [← not_iff_not, Option.not_isSome_iff_eq_none]
  exact find?_eq_none_iff

theorem setOf_isSome_get? (m : Assignment κ) :
    {k | (m.get? k).isSome} = (m.keys.toFinset : Set κ) := by
  ext k
  simp [isSome_get?_iff]

theorem finite_isSome_get? (m : Assignment κ) : {k | (m.get? k).isSome}.Finite := by
  rw [setOf_isSome_get?]
  exact m.keys.toFinset.finite_toSet

/-- An assignment has as many rules as there are keys with a value. -/
theorem ncard_isSome_get? (m : Assignment κ) : {k | (m.get? k).isSome}.ncard = m.size := by
  have hnodup : m.keys.Nodup := m.keys_nodup
  rw [setOf_isSome_get?, Set.ncard_coe_finset, List.toFinset_card_of_nodup hnodup, length_keys]

end Assignment

namespace Table
variable {κ : Type} [DecidableEq κ] {kind : TableKind} {capacity : Nat}
  {t : Table κ kind capacity} {k : κ} {v : ProtocolSet}

/-- A full table refuses a key that it has not got. -/
theorem insert_refused (hk : t.get? k = none) (hfull : t.size = capacity) :
    t.insert k v = .error ⟨kind, capacity⟩ := by
  have hroom : ¬ t.size < capacity := by omega
  rw [insert]
  split
  · next h =>
    rw [get?, h] at hk
    cases hk
  · exact dif_neg hroom

theorem insert_accepted (h : (t.get? k).isSome ∨ t.size < capacity) :
    ∃ t', t.insert k v = .ok t' ∧ t'.rules = t.rules.insert k v := by
  rw [insert]
  split
  · exact ⟨_, rfl, rfl⟩
  · next hk =>
    rw [get?, hk] at h
    exact ⟨_, dif_pos (by simpa using h), rfl⟩

omit [DecidableEq κ]
variable {m : Assignment κ}

theorem ofAssignment_of_le (h : m.size ≤ capacity) :
    (ofAssignment m : Except _ (Table κ kind capacity)) = .ok ⟨m, h⟩ := dif_pos h

theorem ofAssignment_of_lt (h : capacity < m.size) :
    (ofAssignment m : Except _ (Table κ kind capacity)) = .error ⟨kind, capacity⟩ :=
  dif_neg (Nat.not_le_of_lt h)

end Table

namespace Ruling

@[simp] theorem get?_empty (k : Key) : get? {} k = none := by
  rcases k with (a | a) | p <;> rfl

@[simp] theorem get?_insert (r : Ruling) (k x : Key) (v : ProtocolSet) :
    (r.insert k v).get? x = if x = k then some v else r.get? x := by
  rcases k with (a | a) | p <;> rcases x with (b | b) | q <;> simp [insert, get?]

/-- A table of a ruling has the keys of its own kind that have a value. -/
theorem mem_keys_iff {r : Ruling} {t : TableKind} {k : Key} :
    k ∈ r.keys t ↔ k.table = t ∧ (r.get? k).isSome := by
  rcases k with (a | a) | p <;> cases t <;>
    simp [keys, Key.table, get?, Assignment.isSome_get?_iff]

theorem setOf_isSome_get? (r : Ruling) (t : TableKind) :
    {k | k.table = t ∧ (r.get? k).isSome} = ((r.keys t).toFinset : Set Key) := by
  ext k
  simp [mem_keys_iff]

theorem ncard_isSome_get? (r : Ruling) (t : TableKind) :
    {k | k.table = t ∧ (r.get? k).isSome}.ncard = r.size t := by
  rw [setOf_isSome_get?, Set.ncard_coe_finset, List.toFinset_card_of_nodup (r.nodup_keys t),
    r.length_keys]

/-- Rulings with values for the same keys have tables of the same sizes. -/
theorem size_congr {r r' : Ruling} (h : ∀ k, (r'.get? k).isSome = (r.get? k).isSome)
    (t : TableKind) : r'.size t = r.size t := by
  simp only [← ncard_isSome_get?, h]

/-- The first table for which a ruling has too many rules. -/
def overfull? (r : Ruling) : Option TableKind :=
  [.ipv4Addresses, .ipv6Addresses, .ports].find? fun t => t.capacity < r.size t

theorem overfull?_cases (r : Ruling) :
    r.overfull? = none ∧ r.ipv4.size ≤ TableKind.capacity .ipv4Addresses ∧
        r.ipv6.size ≤ TableKind.capacity .ipv6Addresses ∧
        r.ports.size ≤ TableKind.capacity .ports ∨
      r.overfull? = some .ipv4Addresses ∧ TableKind.capacity .ipv4Addresses < r.ipv4.size ∨
      r.overfull? = some .ipv6Addresses ∧ r.ipv4.size ≤ TableKind.capacity .ipv4Addresses ∧
        TableKind.capacity .ipv6Addresses < r.ipv6.size ∨
      r.overfull? = some .ports ∧ r.ipv4.size ≤ TableKind.capacity .ipv4Addresses ∧
        r.ipv6.size ≤ TableKind.capacity .ipv6Addresses ∧
        TableKind.capacity .ports < r.ports.size := by
  rcases Nat.lt_or_ge (TableKind.capacity .ipv4Addresses) r.ipv4.size with h4 | h4
  · exact .inr (.inl ⟨by simp [overfull?, size, h4], h4⟩)
  have hn4 := Nat.not_lt_of_ge h4
  rcases Nat.lt_or_ge (TableKind.capacity .ipv6Addresses) r.ipv6.size with h6 | h6
  · exact .inr (.inr (.inl ⟨by simp [overfull?, size, hn4, h6], h4, h6⟩))
  have hn6 := Nat.not_lt_of_ge h6
  rcases Nat.lt_or_ge (TableKind.capacity .ports) r.ports.size with hp | hp
  · exact .inr (.inr (.inr ⟨by simp [overfull?, size, hn4, hn6, hp], h4, h6, hp⟩))
  · have hnp := Nat.not_lt_of_ge hp
    exact .inl ⟨by simp [overfull?, size, hn4, hn6, hnp], h4, h6, hp⟩

theorem lt_of_overfull? {r : Ruling} {t : TableKind} (h : r.overfull? = some t) :
    t.capacity < r.size t := by simpa using List.find?_some h

end Ruling

namespace Book
variable {b : Book} {k : Key} {v : ProtocolSet}

/-- The rules of a book, without the bounds. -/
def ruling (b : Book) : Ruling := ⟨b.ipv4.rules, b.ipv6.rules, b.ports.rules⟩

theorem get?_eq_ruling (b : Book) (k : Key) : b.get? k = b.ruling.get? k := by
  rcases k with (a | a) | p <;> rfl

theorem size_eq_ruling (b : Book) (t : TableKind) : b.size t = b.ruling.size t := by
  cases t <;> rfl

/-- Books with rules for the same keys have tables of the same sizes. -/
theorem size_congr {b b' : Book} (h : ∀ k, (b'.get? k).isSome = (b.get? k).isSome)
    (t : TableKind) : b'.size t = b.size t := by
  simp only [get?_eq_ruling] at h
  rw [size_eq_ruling, size_eq_ruling, Ruling.size_congr h]

theorem size_le (b : Book) (t : TableKind) : b.size t ≤ t.capacity := by
  cases t with
  | ipv4Addresses => exact b.ipv4.size_le
  | ipv6Addresses => exact b.ipv6.size_le
  | ports => exact b.ports.size_le

/-- A book has room for a key, or its table is full and has not got it. -/
theorem room_or_full (b : Book) (k : Key) :
    ((b.get? k).isSome ∨ b.size k.table < k.table.capacity) ∨
      b.get? k = none ∧ b.size k.table = k.table.capacity := by
  have hle := b.size_le k.table
  cases b.get? k with
  | some v => exact .inl (.inl rfl)
  | none =>
    obtain hlt | hfull := Nat.lt_or_eq_of_le hle
    · exact .inl (.inr hlt)
    · exact .inr ⟨rfl, hfull⟩

theorem insert_refused (hk : b.get? k = none) (hfull : b.size k.table = k.table.capacity) :
    b.insert k v = .error ⟨k.table, k.table.capacity⟩ := by
  rcases k with (a | a) | p
  · simp only [insert, Table.insert_refused hk hfull]
    rfl
  · simp only [insert, Table.insert_refused hk hfull]
    rfl
  · simp only [insert, Table.insert_refused hk hfull]
    rfl

theorem insert_accepted (h : (b.get? k).isSome ∨ b.size k.table < k.table.capacity) :
    ∃ b', b.insert k v = .ok b' ∧ b'.ruling = b.ruling.insert k v := by
  rcases k with (a | a) | p
  · obtain ⟨t, ht, hrules⟩ := Table.insert_accepted (v := v) h
    refine ⟨{ b with ipv4 := t }, ?_, by simp [ruling, hrules, Ruling.insert]⟩
    simp only [insert, ht]
    rfl
  · obtain ⟨t, ht, hrules⟩ := Table.insert_accepted (v := v) h
    refine ⟨{ b with ipv6 := t }, ?_, by simp [ruling, hrules, Ruling.insert]⟩
    simp only [insert, ht]
    rfl
  · obtain ⟨t, ht, hrules⟩ := Table.insert_accepted (v := v) h
    refine ⟨{ b with ports := t }, ?_, by simp [ruling, hrules, Ruling.insert]⟩
    simp only [insert, ht]
    rfl

theorem erase_found (b : Book) (k : Key) : (b.erase k).1 = (b.get? k).isSome := by
  rcases k with (a | a) | p <;> rfl

@[simp] theorem get?_erase (b : Book) (k x : Key) :
    (b.erase k).2.get? x = if x = k then none else b.get? x := by
  rcases k with (a | a) | p <;> rcases x with (c | c) | q <;>
    simp [erase, get?, Table.erase, Table.get?]

/-- A book takes a ruling, or names the first table that has not the room for it. -/
theorem ofRuling_eq (r : Ruling) :
    (∃ b, r.overfull? = none ∧ ofRuling r = .ok b ∧ b.ruling = r) ∨
      ∃ t, r.overfull? = some t ∧ ofRuling r = .error ⟨t, t.capacity⟩ := by
  rcases r.overfull?_cases with ⟨h, h4, h6, hp⟩ | ⟨h, h4⟩ | ⟨h, h4, h6⟩ | ⟨h, h4, h6, hp⟩
  · exact .inl ⟨⟨⟨r.ipv4, h4⟩, ⟨r.ipv6, h6⟩, ⟨r.ports, hp⟩⟩, h,
      ofRuling_ok_iff.mpr ⟨rfl, rfl, rfl⟩, rfl⟩
  · refine .inr ⟨_, h, ?_⟩
    rw [ofRuling, Table.ofAssignment_of_lt h4]
    rfl
  · refine .inr ⟨_, h, ?_⟩
    rw [ofRuling, Table.ofAssignment_of_le h4, Table.ofAssignment_of_lt h6]
    rfl
  · refine .inr ⟨_, h, ?_⟩
    rw [ofRuling, Table.ofAssignment_of_le h4, Table.ofAssignment_of_le h6,
      Table.ofAssignment_of_lt hp]
    rfl

theorem ofRuling_of_overfull {r : Ruling} {t : TableKind} (h : r.overfull? = some t) :
    ofRuling r = .error ⟨t, t.capacity⟩ := by
  rcases ofRuling_eq r with ⟨b, hnone, -⟩ | ⟨t', hsome, herror⟩
  · rw [hnone] at h
    cases h
  · rw [hsome] at h
    cases h
    exact herror

end Book

end IngressGate
