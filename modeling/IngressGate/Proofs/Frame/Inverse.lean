import IngressGate.Bytes.Lemmas
import IngressGate.Proofs.Frame.Encoding
/-!
# Writing and reading frames are inverse to each other

A frame is read back as it was written, unless it lacks a tag and has the type that announces one.
A byte string that is read as a header and a payload is the frame with this header and this payload,
and only those that are too short are not read (`encode_and_read_inverse`).
-/
namespace IngressGate

namespace Bytes
variable {bs : List UInt8} {i width : Nat}

theorem toList_fieldAt (h : i + width ≤ bs.length) :
    (fieldAt bs i width).toList = (bs.drop i).take width := by
  refine List.ext_getElem (by simp; omega) fun j hj _ => ?_
  rw [Vector.length_toList] at hj
  simp [fieldAt, byteAt_of_lt (show i + j < bs.length by omega)]

/-- A field stands before what comes behind it. -/
theorem fieldAt_append_drop (h : i + width ≤ bs.length) :
    (fieldAt bs i width).toList ++ bs.drop (i + width) = bs.drop i := by
  rw [toList_fieldAt h, ← List.drop_drop, List.take_append_drop]

/-- A 16-bit number stands before what comes behind it. -/
theorem ofU16_wordAt_append_drop (h : i + 2 ≤ bs.length) :
    ofU16 (wordAt bs i) ++ bs.drop (i + 2) = bs.drop i := by
  have hword : ofU16 (wordAt bs i) = (fieldAt bs i 2).toList := by
    rw [wordAt, ofU16_u16]
    rfl
  rw [hword, fieldAt_append_drop h]

end Bytes

namespace Ethernet

open Bytes

/-- The header of a frame to be written. -/
def Frame.header (f : Frame) : Header := ⟨f.destination, f.source, f.tag, f.etherType⟩

/-- The frame with a given header and payload. -/
def Header.frame (h : Header) (payload : List UInt8) : Frame :=
  ⟨h.destination, h.source, h.tag, h.etherType, payload⟩

/-! ## What is written is read back -/

/-- The number of bytes of a header. -/
def headerLength (tag : Option VlanTag) : Nat := if tag.isSome then 18 else 14

theorem length_encode (f : Frame) : f.encode.length = headerLength f.tag + f.payload.length := by
  cases htag : f.tag with
  | none =>
    simp [encode_untagged htag, headerLength]
    omega
  | some tag =>
    simp [encode_tagged htag, headerLength]
    omega

/-- A frame is read back if its tag or its type tells that there is a tag or none. -/
theorem read_encode {f : Frame} (h : f.tag = none → f.etherType ≠ 0x8100) (p : Nat) :
    read ⟨p, f.encode⟩ = .ok f.header ⟨p + headerLength f.tag, f.payload⟩ := by
  cases htag : f.tag with
  | none =>
    rw [read_encode_untagged htag (h htag), Frame.header, htag]
    rfl
  | some tag =>
    rw [read_encode_tagged htag, Frame.header, htag]
    rfl

/-- No other frame is read back: in the place of its type a tag is looked for. -/
theorem read_encode_ne {f : Frame} (htag : f.tag = none) (htype : f.etherType = 0x8100) (p : Nat)
    (c : Cursor) : read ⟨p, f.encode⟩ ≠ .ok f.header c := by
  have houter : wordAt f.encode 12 = 0x8100 := by
    simp (disch := simp) [encode_untagged htag, wordAt_append_left, wordAt_append_right, htype]
  intro hread
  rw [read_eq] at hread
  split_ifs at hread
  have hheader : Header.tagged f.encode = f.header := by injection hread
  have htagged : some _ = f.tag := congrArg Header.tag hheader
  rw [htag] at htagged
  cases htagged

/-! ## What is read is what was written -/

theorem encode_untagged_header {bs : List UInt8} (h : 14 ≤ bs.length) :
    ((Header.untagged bs).frame (bs.drop 14)).encode = bs := by
  rw [encode_untagged rfl, List.append_assoc, List.append_assoc]
  show (fieldAt bs 0 6).toList ++ ((fieldAt bs 6 6).toList ++
    (ofU16 (wordAt bs 12) ++ bs.drop 14)) = bs
  rw [ofU16_wordAt_append_drop h, fieldAt_append_drop (by omega), fieldAt_append_drop (by omega),
    List.drop_zero]

theorem encode_tagged_header {bs : List UInt8} (htag : wordAt bs 12 = 0x8100)
    (h : 18 ≤ bs.length) : ((Header.tagged bs).frame (bs.drop 18)).encode = bs := by
  rw [encode_tagged rfl, ← htag]
  simp only [List.append_assoc]
  show (fieldAt bs 0 6).toList ++ ((fieldAt bs 6 6).toList ++ (ofU16 (wordAt bs 12) ++
    (ofU16 (wordAt bs 14) ++ (ofU16 (wordAt bs 16) ++ bs.drop 18)))) = bs
  rw [ofU16_wordAt_append_drop h, ofU16_wordAt_append_drop (by omega),
    ofU16_wordAt_append_drop (by omega), fieldAt_append_drop (by omega),
    fieldAt_append_drop (by omega), List.drop_zero]

/-- The bytes ahead are those of the frame that is read from them. -/
theorem encode_of_read {c c' : Cursor} {header : Header} (h : read c = .ok header c') :
    (header.frame c'.rest).encode = c.rest := by
  rw [read_eq] at h
  split_ifs at h with h14 htag h18
  · cases h
    exact encode_tagged_header htag (Nat.le_of_not_lt h18)
  · cases h
    exact encode_untagged_header (Nat.le_of_not_lt h14)

theorem read_error_iff (c : Cursor) :
    (∃ e c', read c = .error e c') ↔
      c.remaining < 14 ∨ wordAt c.rest 12 = 0x8100 ∧ c.remaining < 18 := by
  rw [read_eq]
  split_ifs with h14 htag h18 <;> simp [*]

/-- **Writing and reading are inverse to each other**, in both directions: a frame is read back,
with the cursor at its payload, unless its type alone would announce a tag; and every byte string
that is read as a frame is what is written for this frame. Only strings without a whole header are
refused. -/
theorem encode_and_read_inverse :
    (∀ f : Frame, read (.ofFrame f.encode) =
        .ok f.header ⟨f.encode.length - f.payload.length, f.payload⟩ ↔
      (f.tag = none → f.etherType ≠ 0x8100)) ∧
    (∀ bs header c, read (.ofFrame bs) = .ok header c → (header.frame c.rest).encode = bs) ∧
    ∀ bs, (∃ e c, read (.ofFrame bs) = .error e c) ↔
      bs.length < 14 ∨ wordAt bs 12 = 0x8100 ∧ bs.length < 18 := by
  refine ⟨fun f => ⟨?_, fun h => ?_⟩, fun bs header c => encode_of_read,
    fun bs => read_error_iff (.ofFrame bs)⟩
  · intro hread htag htype
    exact read_encode_ne htag htype 0 _ hread
  · have hread := read_encode h 0
    rw [Nat.zero_add] at hread
    rw [length_encode, Nat.add_sub_cancel]
    exact hread

/-- A frame with one tag behind another, and with a payload that begins like a third. -/
def doubleTagged : Frame where
  tag := some ⟨0xB064⟩
  etherType := 0x8100
  payload := [0x00, 0x65, 0x81, 0x00]

theorem encode_and_read_inverse_doubleTagged :
    read (.ofFrame doubleTagged.encode) = .ok doubleTagged.header ⟨18, doubleTagged.payload⟩ ∧
      (doubleTagged.header.frame doubleTagged.payload).encode = doubleTagged.encode ∧
      ∃ e c, read (.ofFrame (doubleTagged.encode.take 17)) = .error e c := by
  obtain ⟨hwritten, hread, herror⟩ := encode_and_read_inverse
  have hback : read (.ofFrame doubleTagged.encode) =
      .ok doubleTagged.header ⟨18, doubleTagged.payload⟩ :=
    (hwritten doubleTagged).mpr (by decide)
  exact ⟨hback, hread _ _ _ hback, (herror _).mpr (.inr (by decide))⟩

end Ethernet

end IngressGate
