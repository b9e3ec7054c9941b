import IngressGate.Rule.Key
import IngressGate.Rule.ProtocolSet
/-!
# Tables of rules

An `Assignment` gives a set of protocols to each of finitely many keys; a key has at most one. A
`Table` is an assignment of bounded size. Writing a key that a full table has not got is an error,
while overwriting and erasing are always possible.
-/
namespace IngressGate

/-- A finite map from keys to sets of protocols, in the order in which the keys came. -/
structure Assignment (κ : Type) where
  entries : List (κ × ProtocolSet)
  keys_nodup : (entries.map Prod.fst).Nodup
  deriving Repr

namespace Assignment
variable {κ : Type} [DecidableEq κ]

/-- The assignment without keys. -/
def empty : Assignment κ := ⟨[], List.nodup_nil⟩

/-- The value of a key in a list of entries. -/
def find? (k : κ) : List (κ × ProtocolSet) → Option ProtocolSet
  | [] => none
  | (k', v) :: es => if k' = k then some v else find? k es

/-- The value of a key. -/
def get? (m : Assignment κ) (k : κ) : Option ProtocolSet := find? k m.entries

/-- How many keys have a value. -/
def size (m : Assignment κ) : Nat := m.entries.length

/-- The list of entries with the value of `k` set to `v`; a new key comes last. -/
def put (k : κ) (v : ProtocolSet) : List (κ × ProtocolSet) → List (κ × ProtocolSet)
  | [] => [(k, v)]
  | (k', v') :: es => if k' = k then (k, v) :: es else (k', v') :: put k v es

theorem mem_keys_put {k x : κ} {v : ProtocolSet} (es : List (κ × ProtocolSet)) :
    x ∈ (put k v es).map Prod.fst ↔ x = k ∨ x ∈ es.map Prod.fst := by
  induction es with
  | nil => simp [put]
  | cons e es ih =>
    rw [put]
    split
    · next h => simp [h]
    · simp only [List.map_cons, List.mem_cons, ih]
      exact or_left_comm

theorem nodup_keys_put {k : κ} {v : ProtocolSet} {es : List (κ × ProtocolSet)}
    (h : (es.map Prod.fst).Nodup) : ((put k v es).map Prod.fst).Nodup := by
  induction es with
  | nil => simp [put]
  | cons e es ih =>
    rw [List.map_cons, List.nodup_cons] at h
    rw [put]
    split
    · next hk => rw [List.map_cons, List.nodup_cons, ← hk]; exact h
    · next hk =>
      rw [List.map_cons, List.nodup_cons, mem_keys_put]
      exact ⟨fun hm => hm.elim hk h.1, ih h.2⟩

/-- Sets the value of a key. -/
def insert (m : Assignment κ) (k : κ) (v : ProtocolSet) : Assignment κ :=
  ⟨put k v m.entries, nodup_keys_put m.keys_nodup⟩

/-- Takes its value from a key. -/
def erase (m : Assignment κ) (k : κ) : Assignment κ :=
  ⟨m.entries.filter fun e => e.1 ≠ k, m.keys_nodup.sublist (List.filter_sublist.map _)⟩

/-- The assignment that a list of entries makes; the last value of a key counts. -/
def ofList (es : List (κ × ProtocolSet)) : Assignment κ :=
  es.foldl (fun m e => m.insert e.1 e.2) empty

theorem size_put_le {k : κ} {v : ProtocolSet} (es : List (κ × ProtocolSet)) :
    (put k v es).length ≤ es.length + 1 := by
  induction es with
  | nil => simp [put]
  | cons e es ih =>
    rw [put]
    split
    · simp
    · simpa using ih

theorem length_put_of_find? {k : κ} {v w : ProtocolSet} {es : List (κ × ProtocolSet)}
    (h : find? k es = some w) : (put k v es).length = es.length := by
  induction es with
  | nil => simp [find?] at h
  | cons e es ih =>
    rw [find?] at h
    rw [put]
    split
    · simp
    · next hk => rw [if_neg hk] at h; simpa using ih h

end Assignment

/-- An attempt to put one more rule into a full table. -/
structure CapacityExceeded where
  table : TableKind
  capacity : Nat
  deriving DecidableEq, Repr

/-- The wording of the error. -/
def CapacityExceeded.message (e : CapacityExceeded) : String :=
  s!"{e.table.text} is full ({e.capacity} entries)"

/-- An assignment with at most `capacity` keys; `kind` names it in errors. -/
structure Table (κ : Type) (kind : TableKind) (capacity : Nat) where
  rules : Assignment κ
  size_le : rules.size ≤ capacity
  deriving Repr

namespace Table
variable {κ : Type} [DecidableEq κ] {kind : TableKind} {capacity : Nat}

/-- The table without rules. -/
def empty : Table κ kind capacity := ⟨.empty, Nat.zero_le _⟩

/-- The value of a key. -/
def get? (t : Table κ kind capacity) (k : κ) : Option ProtocolSet := t.rules.get? k

/-- How many rules there are. -/
def size (t : Table κ kind capacity) : Nat := t.rules.size

/-- Sets the value of a key, if the key is there or there is room for one more. -/
def insert (t : Table κ kind capacity) (k : κ) (v : ProtocolSet) :
    Except CapacityExceeded (Table κ kind capacity) :=
  match h : t.rules.get? k with
  | some _ =>
    .ok ⟨t.rules.insert k v,
      Nat.le_trans (Nat.le_of_eq (Assignment.length_put_of_find? h)) t.size_le⟩
  | none =>
    if hs : t.size < capacity then
      .ok ⟨t.rules.insert k v, Nat.le_trans (Assignment.size_put_le _) hs⟩
    else .error ⟨kind, capacity⟩

/-- Takes its rule from a key, and tells whether there was one. -/
def erase (t : Table κ kind capacity) (k : κ) : Bool × Table κ kind capacity :=
  ((t.get? k).isSome, ⟨t.rules.erase k, Nat.le_trans (List.length_filter_le _ _) t.size_le⟩)

/-- The table with exactly the rules of an assignment, if it has room for them. -/
def ofAssignment (m : Assignment κ) : Except CapacityExceeded (Table κ kind capacity) :=
  if h : m.size ≤ capacity then .ok ⟨m, h⟩ else .error ⟨kind, capacity⟩

end Table

end IngressGate
