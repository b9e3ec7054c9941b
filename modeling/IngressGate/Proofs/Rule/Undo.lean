import IngressGate.Proofs.Rule.Lookup
/-!
# Undoing and repeating a rule

To take the rule from a key that had none before is to have the book as it was before the rule came,
and to write a rule once more changes nothing. Both hold of the book itself and not only of what is
looked up in it, so that a book does not wear out under changes that come and go.
-/
namespace IngressGate

namespace Assignment
variable {κ : Type} [DecidableEq κ] {k : κ} {v : ProtocolSet}

theorem filter_ne_put {es : List (κ × ProtocolSet)} (h : find? k es = none) :
    (put k v es).filter (fun e => e.1 ≠ k) = es := by
  induction es with
  | nil => simp [put]
  | cons e es ih =>
    obtain ⟨k', v'⟩ := e
    by_cases hk : k' = k
    · simp [find?, hk] at h
    · rw [find?, if_neg hk] at h
      rw [put, if_neg hk, List.filter_cons_of_pos (by simpa using hk), ih h]

theorem put_put (es : List (κ × ProtocolSet)) : put k v (put k v es) = put k v es := by
  induction es with
  | nil => simp [put]
  | cons e es ih =>
    rw [put]
    split
    · simp [put]
    · next hk => rw [put, if_neg hk, ih]

theorem erase_insert {m : Assignment κ} (h : m.get? k = none) : (m.insert k v).erase k = m := by
  obtain ⟨es, hnodup⟩ := m
  simp only [insert, erase, mk.injEq]
  exact filter_ne_put h

@[simp] theorem insert_insert (m : Assignment κ) : (m.insert k v).insert k v = m.insert k v := by
  simp only [insert, put_put]

end Assignment

namespace Ruling
variable {r : Ruling} {k : Key} {v : ProtocolSet}

/-- Takes its rule from a key. -/
def erase (r : Ruling) (k : Key) : Ruling :=
  match k with
  | .address (.v4 a) => { r with ipv4 := r.ipv4.erase a }
  | .address (.v6 a) => { r with ipv6 := r.ipv6.erase a }
  | .port p => { r with ports := r.ports.erase p }

theorem erase_insert (h : r.get? k = none) : (r.insert k v).erase k = r := by
  rcases k with (a | a) | p <;> simp only [insert, erase] <;> rw [Assignment.erase_insert h]

@[simp] theorem insert_insert (r : Ruling) (k : Key) (v : ProtocolSet) :
    (r.insert k v).insert k v = r.insert k v := by
  rcases k with (a | a) | p <;> simp [insert]

end Ruling

namespace Book
variable {b b' : Book} {k : Key} {v : ProtocolSet}

theorem ruling_injective : Function.Injective ruling := by
  rintro ⟨⟨m4, h4⟩, ⟨m6, h6⟩, ⟨mp, hp⟩⟩ ⟨⟨m4', h4'⟩, ⟨m6', h6'⟩, ⟨mp', hp'⟩⟩ h
  cases h
  rfl

theorem ruling_erase (b : Book) (k : Key) : (b.erase k).2.ruling = b.ruling.erase k := by
  rcases k with (a | a) | p <;> rfl

theorem ruling_insert (h : b.insert k v = .ok b') : b'.ruling = b.ruling.insert k v := by
  obtain hroom | ⟨hnone, hfull⟩ := b.room_or_full k
  · obtain ⟨b'', hb'', hruling⟩ := insert_accepted (v := v) hroom
    rw [hb''] at h
    cases h
    exact hruling
  · rw [insert_refused hnone hfull] at h
    cases h

theorem get?_insert (h : b.insert k v = .ok b') (x : Key) :
    b'.get? x = if x = k then some v else b.get? x := by
  rw [get?_eq_ruling, ruling_insert h, Ruling.get?_insert, get?_eq_ruling]

/-- A rule that came to a key without one is taken from it again without a trace. -/
theorem erase_insert (hk : b.get? k = none) (h : b.insert k v = .ok b') :
    b'.erase k = (true, b) := by
  have hfound : (b'.erase k).1 = true := by rw [erase_found, get?_insert h, if_pos rfl]; rfl
  have hruling : (b'.erase k).2.ruling = b.ruling := by
    rw [ruling_erase, ruling_insert h, Ruling.erase_insert (by rw [← get?_eq_ruling, hk])]
  exact Prod.ext hfound (ruling_injective hruling)

/-- A rule that was written is written once more without a trace. -/
theorem insert_again (h : b.insert k v = .ok b') : b'.insert k v = .ok b' := by
  have hpresent : (b'.get? k).isSome := by rw [get?_insert h, if_pos rfl]; rfl
  obtain ⟨b'', hb'', hruling⟩ := insert_accepted (v := v) (.inl hpresent)
  rw [ruling_insert h, Ruling.insert_insert, ← ruling_insert h] at hruling
  rw [hb'', ruling_injective hruling]

end Book

end IngressGate
