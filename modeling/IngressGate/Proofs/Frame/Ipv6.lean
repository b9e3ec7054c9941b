import IngressGate.Proofs.Frame.Chain
/-!
# What the IPv6 reader accepts

`Outcome` relates a place in a frame to what `Ipv6.read` comes to there, in terms of the grammar of
extension chains alone. The reader computes exactly this relation (`read_eq_iff`), which gives the
conditions of success and of every error.
-/
namespace IngressGate.Ipv6

open Bytes

theorem version_ofFixed_ne_six {c : Cursor} (h40 : 40 ≤ c.remaining) :
    (Header.ofFixed (c.front 40 h40)).version ≠ 6 ↔ (byteAt c.rest 0).toNat / 16 ≠ 6 := by
  rw [← toNat_shiftRight_four, Header.ofFixed, Cursor.getElem_front, ne_eq, ← UInt8.toNat_inj]
  rfl

/-- The base header is read first; its chain decides the rest. -/
theorem read_of_version {c : Cursor} (h40 : 40 ≤ c.remaining)
    (hversion : (byteAt c.rest 0).toNat / 16 = 6) :
    read c = (do return ⟨.ofFixed (c.front 40 h40),
      ← Chain.read 6 (byteAt c.rest 6) ⟨byteAt c.rest 6, 0, false⟩⟩ : Reader Resolved)
        (c.advance 40) := by
  have hsix : ¬ (Header.ofFixed (c.front 40 h40)).version ≠ 6 := by
    rw [version_ofFixed_ne_six]
    exact not_not.mpr hversion
  have hnext : (Header.ofFixed (c.front 40 h40)).nextHeader = byteAt c.rest 6 :=
    Cursor.getElem_front h40 (by decide)
  rw [read, Reader.bind_of_ok (Reader.take_of_le h40), if_neg hsix, hnext]
  rfl

theorem read_of_otherVersion {c : Cursor} (h40 : 40 ≤ c.remaining)
    (hversion : (byteAt c.rest 0).toNat / 16 ≠ 6) :
    read c = .error (.malformed .ipv6Version) (c.advance 40) := by
  have hne : (Header.ofFixed (c.front 40 h40)).version ≠ 6 :=
    (version_ofFixed_ne_six h40).mpr hversion
  rw [read, Reader.bind_of_ok (Reader.take_of_le h40), if_pos hne, Reader.reject_apply]

theorem read_of_lt {c : Cursor} (hlt : c.remaining < 40) :
    read c = .error (.truncated "ipv6" 40 c.remaining) c := by
  rw [read, Reader.bind_of_error (Reader.take_of_lt hlt)]

/-- Behind the base header `base` at `c`, of version 6, at most six extension headers lead to a
header of type `last` at `c'`. -/
structure Reaches (c : Cursor) (base : Vector UInt8 40) (es : List Extension) (last : UInt8)
    (c' : Cursor) : Prop where
  rest_eq : c.rest = base.toList ++ bytesOf es ++ c'.rest
  position_eq : c'.position = c.position + 40 + (bytesOf es).length
  version_eq : (byteAt c.rest 0).toNat / 16 = 6
  linked : Linked (byteAt c.rest 6) es last
  length_le : es.length ≤ 6

namespace Reaches
variable {c c' : Cursor} {base : Vector UInt8 40} {es : List Extension} {last : UInt8}

theorem walk (r : Reaches c base es last c') :
    Walk 6 (byteAt c.rest 6) (c.advance 40) es last c' where
  rest_eq := by
    rw [Cursor.rest_advance, r.rest_eq, List.append_assoc]
    exact List.drop_left' (by simp)
  position_eq := r.position_eq
  linked := r.linked
  length_le := r.length_le

theorem ofWalk (h40 : 40 ≤ c.remaining) (hversion : (byteAt c.rest 0).toNat / 16 = 6)
    (w : Walk 6 (byteAt c.rest 6) (c.advance 40) es last c') :
    Reaches c (c.front 40 h40) es last c' where
  rest_eq := by
    have hfront : (c.front 40 h40).toList = c.rest.take 40 := by simp [Cursor.front]
    rw [hfront, List.append_assoc, ← w.rest_eq, Cursor.rest_advance, List.take_append_drop]
  position_eq := w.position_eq
  version_eq := hversion
  linked := w.linked
  length_le := w.length_le

theorem le_remaining (r : Reaches c base es last c') : 40 ≤ c.remaining := by
  simp [Cursor.remaining, r.rest_eq]

theorem front_eq (r : Reaches c base es last c') : c.front 40 r.le_remaining = base := by
  ext i hi
  rw [Cursor.getElem_front r.le_remaining hi, r.rest_eq, List.append_assoc,
    byteAt_append_left (by simpa using hi), byteAt_toList base hi]

theorem read_eq (r : Reaches c base es last c') :
    read c = (do return ⟨.ofFixed base,
      ← Chain.read 6 (byteAt c.rest 6) ⟨byteAt c.rest 6, 0, false⟩⟩ : Reader Resolved)
        (c.advance 40) := by
  rw [read_of_version r.le_remaining r.version_eq, r.front_eq]

/-- More bytes behind the frame do not change where a chain leads. -/
theorem extend (r : Reaches c base es last c') (x : List UInt8) :
    Reaches (c.extend x) base es last (c'.extend x) where
  rest_eq := by rw [Cursor.rest_extend, r.rest_eq, Cursor.rest_extend, List.append_assoc]
  position_eq := r.position_eq
  version_eq := by
    have hle : 40 ≤ c.rest.length := r.le_remaining
    rw [Cursor.rest_extend, byteAt_append_left (by omega), r.version_eq]
  linked := by
    have hle : 40 ≤ c.rest.length := r.le_remaining
    rw [Cursor.rest_extend, byteAt_append_left (by omega)]
    exact r.linked
  length_le := r.length_le

/-- A chain that has led to an extension header leads past it, if one more is allowed. -/
theorem snoc {e : Extension} (r : Reaches c base es e.type c') (hlt : es.length < 6)
    {rest : List UInt8} (hrest : c'.rest = e.bytes ++ rest) :
    Reaches c base (es ++ [e]) e.next ⟨c'.position + e.bytes.length, rest⟩ where
  rest_eq := by simp [r.rest_eq, hrest]
  position_eq := by simp [r.position_eq, Nat.add_assoc]
  version_eq := r.version_eq
  linked := r.linked.snoc
  length_le := by
    rw [List.length_append]
    exact hlt

end Reaches

/-- What reading a header with its chain comes to. -/
inductive Outcome (c : Cursor) : EStateM.Result HeaderError Cursor Resolved → Prop
  | short : c.remaining < 40 → Outcome c (.error (.truncated "ipv6" 40 c.remaining) c)
  | otherVersion : 40 ≤ c.remaining → (byteAt c.rest 0).toNat / 16 ≠ 6 →
      Outcome c (.error (.malformed .ipv6Version) (c.advance 40))
  | resolved {base es last c'} : Reaches c base es last c' → last ∉ extensionTypes →
      last ∉ refusedTypes →
      Outcome c (.ok ⟨.ofFixed base, last, es.length, es.any (·.isLaterFragment)⟩ c')
  | unsupported {base es last c'} : Reaches c base es last c' →
      last ∈ refusedTypes ∨ last ∈ extensionTypes ∧ es.length = 6 →
      Outcome c (.error (.unsupportedExtension last) c')
  | truncated {base es last c' header needed} : Reaches c base es last c' → es.length < 6 →
      CutShort c'.rest last header needed →
      Outcome c (.error (.truncated header needed c'.remaining) c')

theorem Outcome.read_eq {c : Cursor} {o : EStateM.Result HeaderError Cursor Resolved}
    (h : Outcome c o) : read c = o := by
  cases h with
  | short hlt => exact read_of_lt hlt
  | otherVersion h40 hversion => exact read_of_otherVersion h40 hversion
  | resolved r hext href =>
    rw [r.read_eq, Reader.bind_of_ok (r.walk.read_ok hext href), Reader.pure_apply]
    simp
  | unsupported r hlast =>
    rw [r.read_eq, Reader.bind_of_error (r.walk.read_unsupported hlast)]
  | truncated r hlt hcut =>
    rw [r.read_eq, Reader.bind_of_error (r.walk.read_truncated hlt hcut)]

theorem exists_outcome (c : Cursor) : ∃ o, Outcome c o := by
  by_cases hlt : c.remaining < 40
  · exact ⟨_, .short hlt⟩
  have h40 : 40 ≤ c.remaining := Nat.le_of_not_lt hlt
  by_cases hversion : (byteAt c.rest 0).toNat / 16 = 6
  · obtain ⟨es, last, c', w, hend⟩ := exists_walk 6 (byteAt c.rest 6) (c.advance 40)
    have r := Reaches.ofWalk h40 hversion w
    by_cases hext : last ∈ extensionTypes
    · rcases Nat.lt_or_eq_of_le w.length_le with hless | hfull
      · obtain ⟨header, needed, hcut⟩ := hend hext hless
        exact ⟨_, .truncated r hless hcut⟩
      · exact ⟨_, .unsupported r (.inr ⟨hext, hfull⟩)⟩
    · by_cases href : last ∈ refusedTypes
      · exact ⟨_, .unsupported r (.inl href)⟩
      · exact ⟨_, .resolved r hext href⟩
  · exact ⟨_, .otherVersion h40 hversion⟩

/-- The reader computes the relation. -/
theorem read_eq_iff {c : Cursor} {o : EStateM.Result HeaderError Cursor Resolved} :
    read c = o ↔ Outcome c o := by
  refine ⟨?_, Outcome.read_eq⟩
  rintro rfl
  obtain ⟨o, ho⟩ := exists_outcome c
  rw [ho.read_eq]
  exact ho

/-- **A header is accepted exactly when its chain is a chain.** It resolves when at most six
extension headers, all of them in the frame, lead to an upper-layer protocol; otherwise the error
says what was met first: another version, a header that is refused or one too many, or the end of
the frame. -/
theorem read_accepts_exactly_chains (c : Cursor) :
    (∀ p c', read c = .ok p c' ↔
      ∃ base es last, Reaches c base es last c' ∧ last ∉ extensionTypes ∧ last ∉ refusedTypes ∧
        p = ⟨.ofFixed base, last, es.length, es.any (·.isLaterFragment)⟩) ∧
    (∀ flaw c', read c = .error (.malformed flaw) c' ↔
      40 ≤ c.remaining ∧ (byteAt c.rest 0).toNat / 16 ≠ 6 ∧
        flaw = .ipv6Version ∧ c' = c.advance 40) ∧
    (∀ type c', read c = .error (.unsupportedExtension type) c' ↔
      ∃ base es, Reaches c base es type c' ∧
        (type ∈ refusedTypes ∨ type ∈ extensionTypes ∧ es.length = 6)) ∧
    (∀ header needed remaining c', read c = .error (.truncated header needed remaining) c' ↔
      c.remaining < 40 ∧ header = "ipv6" ∧ needed = 40 ∧ remaining = c.remaining ∧ c' = c ∨
        ∃ base es last, Reaches c base es last c' ∧ es.length < 6 ∧
          CutShort c'.rest last header needed ∧ remaining = c'.remaining) := by
  simp only [read_eq_iff]
  refine ⟨fun p c' => ⟨?_, ?_⟩, fun flaw c' => ⟨?_, ?_⟩, fun type c' => ⟨?_, ?_⟩,
    fun header needed remaining c' => ⟨?_, ?_⟩⟩
  · rintro (⟨⟩ | ⟨⟩ | ⟨r, hext, href⟩)
    exact ⟨_, _, _, r, hext, href, rfl⟩
  · rintro ⟨base, es, last, r, hext, href, rfl⟩
    exact .resolved r hext href
  · rintro (⟨⟩ | ⟨h40, hversion⟩)
    exact ⟨h40, hversion, rfl, rfl⟩
  · rintro ⟨h40, hversion, rfl, rfl⟩
    exact .otherVersion h40 hversion
  · rintro (⟨⟩ | ⟨⟩ | ⟨⟩ | ⟨r, hlast⟩)
    exact ⟨_, _, r, hlast⟩
  · rintro ⟨base, es, r, hlast⟩
    exact .unsupported r hlast
  · rintro (hlt | ⟨⟩ | ⟨⟩ | ⟨⟩ | ⟨r, hlt, hcut⟩)
    · exact .inl ⟨hlt, rfl, rfl, rfl, rfl⟩
    · exact .inr ⟨_, _, _, r, hlt, hcut, rfl⟩
  · rintro (⟨hlt, rfl, rfl, rfl, rfl⟩ | ⟨base, es, last, r, hlt, hcut, rfl⟩)
    · exact .short hlt
    · exact .truncated r hlt hcut

end IngressGate.Ipv6
