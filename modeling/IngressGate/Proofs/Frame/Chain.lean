import Mathlib.Tactic.Common
import IngressGate.Frame.Ipv6
import IngressGate.Proofs.Frame.Reading
/-!
# The grammar of extension chains

A chain of extension headers is a list of headers laid end to end, each announcing the type of the
next. `Walk` says that a reader may get from one place in a frame to another over such a list. Every
walk determines what `Chain.read` comes to (`Walk.read_eq`), and every place has a walk that cannot
be continued (`exists_walk`), so that the two together decide every chain.
-/
namespace IngressGate.Ipv6

open Bytes

/-- The types of the extension headers that are read. -/
def extensionTypes : List UInt8 := [0, 43, 60, 51, 44]

/-- The types of the headers that are refused. -/
def refusedTypes : List UInt8 := [135, 139, 140, 253, 254]

/-- How many bytes an extension header has, given its type and its second byte. -/
def extensionLength (type n : UInt8) : Nat :=
  if type = 44 then 8 else if type = 51 then 4 * (n.toNat + 2) else 8 * (n.toNat + 1)

theorem eight_le_extensionLength (type n : UInt8) : 8 ≤ extensionLength type n := by
  rw [extensionLength]
  split
  · exact Nat.le_refl 8
  split <;> omega

/-- An extension header: the type that announces it, and its bytes. -/
structure Extension where
  type : UInt8
  bytes : List UInt8
  mem_types : type ∈ extensionTypes
  length_eq : bytes.length = extensionLength type (byteAt bytes 1)

namespace Extension

/-- The type that a header announces. -/
def next (e : Extension) : UInt8 := byteAt e.bytes 0

/-- Whether a header marks a fragment whose offset, of thirteen bits, is not zero. -/
def isLaterFragment (e : Extension) : Bool := e.type = 44 ∧ (wordAt e.bytes 2).toNat / 8 ≠ 0

theorem eight_le_length (e : Extension) : 8 ≤ e.bytes.length := by
  rw [e.length_eq]
  exact eight_le_extensionLength e.type _

end Extension

/-- The bytes of headers laid end to end. -/
def bytesOf (es : List Extension) : List UInt8 := es.flatMap (·.bytes)

@[simp] theorem bytesOf_nil : bytesOf [] = [] := rfl

@[simp] theorem bytesOf_cons (e : Extension) (es : List Extension) :
    bytesOf (e :: es) = e.bytes ++ bytesOf es := rfl

@[simp] theorem bytesOf_append (es es' : List Extension) :
    bytesOf (es ++ es') = bytesOf es ++ bytesOf es' := by simp [bytesOf]

/-- Each header has the type announced before it, the first by `type`; the last announces
`last`. -/
def Linked (type : UInt8) : List Extension → (last : UInt8) → Prop
  | [], last => type = last
  | e :: es, last => e.type = type ∧ Linked e.next es last

theorem Linked.snoc {type : UInt8} {es : List Extension} {e : Extension}
    (h : Linked type es e.type) : Linked type (es ++ [e]) e.next := by
  induction es generalizing type with
  | nil => exact ⟨h.symm, rfl⟩
  | cons e' es ih => exact ⟨h.1, ih h.2⟩

/-- The bytes `rest` are too few for the extension header that should start there: the reader that
finds out asks for `needed` bytes under the name `header`. -/
inductive CutShort (rest : List UInt8) : (type : UInt8) → (header : String) → (needed : Nat) → Prop
  | fragment : rest.length < 8 → CutShort rest 44 "ipv6 fragment" 8
  | lengthByte {type : UInt8} : type ∈ extensionTypes → type ≠ 44 → rest.length < 2 →
      CutShort rest type "ipv6 extension" 2
  | body {type : UInt8} : type ∈ extensionTypes → type ≠ 44 → 2 ≤ rest.length →
      rest.length < extensionLength type (byteAt rest 1) →
      CutShort rest type "ipv6 extension" (extensionLength type (byteAt rest 1))

theorem CutShort.mem_types {rest : List UInt8} {type : UInt8} {header : String} {needed : Nat}
    (h : CutShort rest type header needed) : type ∈ extensionTypes := by
  cases h with
  | fragment => decide
  | lengthByte ht => exact ht
  | body ht => exact ht

theorem CutShort.length_lt {rest : List UInt8} {type : UInt8} {header : String} {needed : Nat}
    (h : CutShort rest type header needed) :
    rest.length < extensionLength type (byteAt rest 1) := by
  have h8 := eight_le_extensionLength type (byteAt rest 1)
  cases h with
  | fragment hlt => exact hlt
  | lengthByte _ _ hlt => omega
  | body _ _ _ hlt => exact hlt

theorem cutShort_nil {type : UInt8} (ht : type ∈ extensionTypes) :
    ∃ header needed, CutShort [] type header needed := by
  by_cases hf : type = 44
  · subst hf
    exact ⟨_, _, .fragment (by decide)⟩
  · exact ⟨_, _, .lengthByte ht hf (by decide)⟩

/-- Where an extension header is announced, there is one, or the bytes run out. -/
theorem extension_or_cutShort {type : UInt8} (ht : type ∈ extensionTypes) (bs : List UInt8) :
    (∃ (e : Extension) (rest : List UInt8), e.type = type ∧ bs = e.bytes ++ rest) ∨
      ∃ header needed, CutShort bs type header needed := by
  let n := extensionLength type (byteAt bs 1)
  have h8 : 8 ≤ n := eight_le_extensionLength type _
  by_cases hn : n ≤ bs.length
  · have hlength : (bs.take n).length = n := List.length_take_of_le hn
    have hsecond : byteAt (bs.take n) 1 = byteAt bs 1 := by
      conv_rhs => rw [← List.take_append_drop n bs]
      rw [byteAt_append_left (by omega)]
    refine .inl ⟨⟨type, bs.take n, ht, ?_⟩, bs.drop n, rfl, (List.take_append_drop n bs).symm⟩
    rw [hlength, hsecond]
  · have hlt : bs.length < n := Nat.lt_of_not_le hn
    refine .inr ?_
    by_cases hf : type = 44
    · subst hf
      exact ⟨_, _, .fragment hlt⟩
    · by_cases h2 : bs.length < 2
      · exact ⟨_, _, .lengthByte ht hf h2⟩
      · exact ⟨_, _, .body ht hf (Nat.le_of_not_lt h2) hlt⟩

/-! ## Single headers -/

namespace Chain

variable {budget : Nat} {type : UInt8} {seen : Chain} {c : Cursor}

/-- What is known behind one more header. -/
def after (seen : Chain) (e : Extension) : Chain :=
  { seen with
    extensions := seen.extensions + 1
    laterFragment := seen.laterFragment || e.isLaterFragment }

theorem read_of_upperLayer (hext : type ∉ extensionTypes) (href : type ∉ refusedTypes) :
    read budget type seen c = .ok { seen with protocol := type } c := by
  have hlink : Link.ofType type = .upperLayer := by
    simp only [extensionTypes, refusedTypes, List.mem_cons, List.not_mem_nil, not_or] at hext href
    simp [Link.ofType, hext, href]
  cases budget <;> simp [read, hlink, Reader.pure_apply]

theorem read_of_refused (href : type ∈ refusedTypes) :
    read budget type seen c = .error (.unsupportedExtension type) c := by
  have hlink : Link.ofType type = .unsupported := by
    simp only [refusedTypes, List.mem_cons, List.not_mem_nil, or_false] at href
    rcases href with rfl | rfl | rfl | rfl | rfl <;> rfl
  cases budget <;> simp [read, hlink, Reader.reject_apply]

theorem read_zero (hext : type ∈ extensionTypes) :
    read 0 type seen c = .error (.unsupportedExtension type) c := by
  simp only [extensionTypes, List.mem_cons, List.not_mem_nil, or_false] at hext
  rcases hext with rfl | rfl | rfl | rfl | rfl <;> rfl

/-- The headers that say how long they are differ in that length alone. -/
theorem read_succ_of_sized (hext : type ∈ extensionTypes) (hf : type ≠ 44) :
    read (budget + 1) type seen = (do
      let next ← readSized (extensionLength type)
      read budget next { seen with extensions := seen.extensions + 1 }) := by
  simp only [extensionTypes, List.mem_cons, List.not_mem_nil, or_false] at hext
  by_cases ha : type = 51
  · have hlink : Link.ofType type = .authentication := by rw [ha]; rfl
    have hlength : authenticationLength = extensionLength type := by
      funext n
      rw [authenticationLength, extensionLength, if_neg hf, if_pos ha, Nat.mul_comm]
    simp only [read, hlink, hlength]
  · have hlink : Link.ofType type = .options := by rw [Link.ofType, if_pos (by tauto)]
    have hlength : optionsLength = extensionLength type := by
      funext n
      rw [optionsLength, extensionLength, if_neg hf, if_neg ha, Nat.mul_comm]
    simp only [read, hlink, hlength]

theorem read_succ_fragment :
    read (budget + 1) 44 seen = (do
      let (next, later) ← readFragment
      read budget next { seen with
        extensions := seen.extensions + 1, laterFragment := seen.laterFragment || later }) := rfl

theorem readFragment_append {e : Extension} (hf : e.type = 44) (p : Nat) (rest : List UInt8) :
    readFragment ⟨p, e.bytes ++ rest⟩ =
      .ok (e.next, e.isLaterFragment) ⟨p + e.bytes.length, rest⟩ := by
  have hlength : e.bytes.length = 8 := by rw [e.length_eq, hf]; rfl
  have hle : 8 ≤ (Cursor.mk p (e.bytes ++ rest)).remaining :=
    hlength ▸ Cursor.length_le_remaining p e.bytes rest
  have hadvance : (Cursor.mk p (e.bytes ++ rest)).advance 8 = ⟨p + e.bytes.length, rest⟩ :=
    hlength ▸ Cursor.advance_append p e.bytes rest
  have hoffset : (u16 (byteAt e.bytes 2) (byteAt e.bytes 3)) >>> 3 ≠ 0 ↔
      (wordAt e.bytes 2).toNat / 8 ≠ 0 := by
    rw [ne_eq, ← UInt16.toNat_inj, UInt16.toNat_shiftRight, Nat.shiftRight_eq_div_pow]
    rfl
  rw [readFragment, Reader.bind_of_ok (Reader.take_of_le hle), Reader.pure_apply, hadvance]
  simp only [Cursor.getElem_front, byteAt_append_left (show 0 < e.bytes.length by omega),
    byteAt_append_left (show 2 < e.bytes.length by omega),
    byteAt_append_left (show 3 < e.bytes.length by omega), hoffset]
  simp [Extension.next, Extension.isLaterFragment, hf]

theorem readSized_append (e : Extension) (p : Nat) (rest : List UInt8) :
    readSized (extensionLength e.type) ⟨p, e.bytes ++ rest⟩ =
      .ok e.next ⟨p + e.bytes.length, rest⟩ := by
  have h8 : 8 ≤ e.bytes.length := e.eight_le_length
  have hle : e.bytes.length ≤ (Cursor.mk p (e.bytes ++ rest)).remaining :=
    Cursor.length_le_remaining p e.bytes rest
  have h2 : 2 ≤ (Cursor.mk p (e.bytes ++ rest)).remaining := by omega
  rw [readSized, Reader.bind_of_ok (Reader.peek_of_le h2)]
  simp only [Cursor.getElem_front, byteAt_append_left (show 0 < e.bytes.length by omega),
    byteAt_append_left (show 1 < e.bytes.length by omega), ← e.length_eq]
  rw [Reader.bind_of_ok (Reader.skip_of_le hle), Reader.pure_apply, Cursor.advance_append]
  rfl

/-- The reader moves over an extension header that is all there. -/
theorem read_append (budget : Nat) (e : Extension) (seen : Chain) (p : Nat) (rest : List UInt8) :
    read (budget + 1) e.type seen ⟨p, e.bytes ++ rest⟩ =
      read budget e.next (seen.after e) ⟨p + e.bytes.length, rest⟩ := by
  by_cases hf : e.type = 44
  · rw [hf, read_succ_fragment, Reader.bind_of_ok (readFragment_append hf p rest)]
    rfl
  · have hafter : seen.after e = { seen with extensions := seen.extensions + 1 } := by
      simp [after, Extension.isLaterFragment, hf]
    rw [read_succ_of_sized e.mem_types hf, Reader.bind_of_ok (readSized_append e p rest), hafter]

/-- The reader fails where an extension header is cut short. -/
theorem read_cutShort {header : String} {needed : Nat}
    (h : CutShort c.rest type header needed) :
    read (budget + 1) type seen c = .error (.truncated header needed c.remaining) c := by
  cases h with
  | fragment h8 =>
    have hread : readFragment c = .error (.truncated "ipv6 fragment" 8 c.remaining) c := by
      rw [readFragment, Reader.bind_of_error (Reader.take_of_lt h8)]
    rw [read_succ_fragment, Reader.bind_of_error hread]
  | lengthByte ht hf h2 =>
    have hread : readSized (extensionLength type) c =
        .error (.truncated "ipv6 extension" 2 c.remaining) c := by
      rw [readSized, Reader.bind_of_error (Reader.peek_of_lt h2)]
    rw [read_succ_of_sized ht hf, Reader.bind_of_error hread]
  | body ht hf h2 hlt =>
    have hread : readSized (extensionLength type) c =
        .error (.truncated "ipv6 extension" (extensionLength type (byteAt c.rest 1))
          c.remaining) c := by
      have hle : 2 ≤ c.remaining := h2
      rw [readSized, Reader.bind_of_ok (Reader.peek_of_le hle)]
      simp only [Cursor.getElem_front]
      rw [Reader.bind_of_error (Reader.skip_of_lt hlt)]
    rw [read_succ_of_sized ht hf, Reader.bind_of_error hread]

end Chain

/-! ## Walks -/

/-- From a header of type `type` at `c`, at most `budget` extension headers that are all there lead
to a header of type `last` at `c'`. -/
structure Walk (budget : Nat) (type : UInt8) (c : Cursor) (es : List Extension) (last : UInt8)
    (c' : Cursor) : Prop where
  rest_eq : c.rest = bytesOf es ++ c'.rest
  position_eq : c'.position = c.position + (bytesOf es).length
  linked : Linked type es last
  length_le : es.length ≤ budget

namespace Chain

/-- What is known behind a list of headers. -/
def follow (seen : Chain) (es : List Extension) : Chain := es.foldl after seen

theorem follow_eq (seen : Chain) (es : List Extension) :
    seen.follow es =
      { seen with
        extensions := seen.extensions + es.length
        laterFragment := seen.laterFragment || es.any (·.isLaterFragment) } := by
  induction es generalizing seen with
  | nil => simp [follow]
  | cons e es ih =>
    have hstep : seen.follow (e :: es) = (seen.after e).follow es := rfl
    rw [hstep, ih]
    simp [after, Nat.add_assoc, Nat.add_comm 1, Bool.or_assoc]

end Chain

namespace Walk
variable {budget : Nat} {type last : UInt8} {c c' : Cursor} {es : List Extension} {seen : Chain}

/-- Over a walk, the reader goes where the walk leads and remembers what it has seen. -/
theorem read_eq (w : Walk budget type c es last c') (seen : Chain) :
    Chain.read budget type seen c = Chain.read (budget - es.length) last (seen.follow es) c' := by
  obtain ⟨hrest, hposition, hlinked, hlength⟩ := w
  induction es generalizing budget type c seen with
  | nil =>
    have hc : c = c' := by
      cases c
      cases c'
      simp_all
    simp only [Linked] at hlinked
    rw [hc, hlinked]
    rfl
  | cons e es ih =>
    obtain ⟨htype, htail⟩ := hlinked
    obtain ⟨budget, rfl⟩ : ∃ b, budget = b + 1 := ⟨budget - 1, by simp at hlength; omega⟩
    have hc : c = ⟨c.position, e.bytes ++ (bytesOf es ++ c'.rest)⟩ := by
      cases c
      simp_all
    have hplace : c'.position = c.position + e.bytes.length + (bytesOf es).length := by
      simp only [hposition, bytesOf_cons, List.length_append]
      omega
    have htake : (e :: es).length = es.length + 1 := List.length_cons
    rw [hc, ← htype, Chain.read_append, ih (seen.after e) rfl hplace htail (by omega), htake,
      Nat.add_sub_add_right]
    rfl

/-- A walk may start with one more header, if one more is allowed. -/
theorem cons {e : Extension} {rest : List UInt8} (hrest : c.rest = e.bytes ++ rest)
    (w : Walk budget e.next ⟨c.position + e.bytes.length, rest⟩ es last c') :
    Walk (budget + 1) e.type c (e :: es) last c' where
  rest_eq := by rw [hrest, bytesOf_cons, List.append_assoc, ← w.rest_eq]
  position_eq := by
    rw [w.position_eq, bytesOf_cons, List.length_append, Nat.add_assoc]
  linked := ⟨rfl, w.linked⟩
  length_le := Nat.succ_le_succ w.length_le

/-- A walk that comes to an upper-layer protocol in time resolves the chain. -/
theorem read_ok (w : Walk budget type c es last c') (hext : last ∉ extensionTypes)
    (href : last ∉ refusedTypes) :
    Chain.read budget type seen c =
      .ok ⟨last, seen.extensions + es.length, seen.laterFragment || es.any (·.isLaterFragment)⟩
        c' := by
  rw [w.read_eq, Chain.read_of_upperLayer hext href, Chain.follow_eq]

/-- A walk that comes to a refused header, or to an extension header too many, ends in an error
that names its type. -/
theorem read_unsupported (w : Walk budget type c es last c')
    (h : last ∈ refusedTypes ∨ last ∈ extensionTypes ∧ es.length = budget) :
    Chain.read budget type seen c = .error (.unsupportedExtension last) c' := by
  rw [w.read_eq]
  rcases h with href | ⟨hext, hlength⟩
  · exact Chain.read_of_refused href
  · rw [hlength, Nat.sub_self, Chain.read_zero hext]

/-- A walk that comes to an extension header that is cut short reports the shortage. -/
theorem read_truncated (w : Walk budget type c es last c') (hlt : es.length < budget)
    {header : String} {needed : Nat} (h : CutShort c'.rest last header needed) :
    Chain.read budget type seen c = .error (.truncated header needed c'.remaining) c' := by
  obtain ⟨left, hleft⟩ : ∃ left, budget - es.length = left + 1 :=
    ⟨budget - es.length - 1, by omega⟩
  rw [w.read_eq, hleft, Chain.read_cutShort h]

end Walk

/-- There is always a walk that goes on until the chain ends, no more headers are allowed or the
bytes run out. -/
theorem exists_walk (budget : Nat) (type : UInt8) (c : Cursor) :
    ∃ es last c', Walk budget type c es last c' ∧
      (last ∈ extensionTypes → es.length < budget →
        ∃ header needed, CutShort c'.rest last header needed) := by
  induction budget generalizing type c with
  | zero => exact ⟨[], type, c, ⟨rfl, rfl, rfl, Nat.le_refl 0⟩, fun _ h => absurd h (by simp)⟩
  | succ budget ih =>
    by_cases hext : type ∈ extensionTypes
    · rcases extension_or_cutShort hext c.rest with ⟨e, rest, rfl, hrest⟩ | hcut
      · obtain ⟨es, last, c', w, hend⟩ := ih e.next ⟨c.position + e.bytes.length, rest⟩
        refine ⟨e :: es, last, c', w.cons hrest, fun hlast hlt => hend hlast ?_⟩
        exact Nat.lt_of_succ_lt_succ hlt
      · exact ⟨[], type, c, ⟨rfl, rfl, rfl, Nat.zero_le _⟩, fun _ _ => hcut⟩
    · exact ⟨[], type, c, ⟨rfl, rfl, rfl, Nat.zero_le _⟩, fun h => absurd h hext⟩

end IngressGate.Ipv6
