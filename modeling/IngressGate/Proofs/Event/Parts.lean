import IngressGate.Proofs.Event.Message
/-!
# Messages written in parts

Each part of a message is cut for itself, so that what is left of the room by a part that was cut
can still take a character of a later one. The field then begins as the field of the whole text
does, with at most three bytes of later parts behind that. The two fields are the same exactly when
those bytes are zero, which is the case in particular when every character has one byte.
-/
namespace IngressGate.Message
variable {room : Nat} {xs : List Char} {parts : List String}

/-! ## The longest start of a text -/

/-- The bytes of a text that a field can hold beside its last zero. -/
def capacity : Nat := size - 1

/-- The field holds the longest start of the text for which there is room, filled up with zeros. -/
def HoldsStart (field : Vector UInt8 size) (text : List Char) : Prop :=
  ∃ kept, kept <+: text ∧ (charsBytes kept).length ≤ capacity ∧
    (∀ start, start <+: text → (charsBytes start).length ≤ capacity → start <+: kept) ∧
    field.toList = charsBytes kept ++ List.replicate (size - (charsBytes kept).length) 0

theorem length_charBytes (c : Char) : (charBytes c).length = c.utf8Size :=
  String.length_utf8EncodeChar c

/-- What fits is the longest start for which there is room. -/
theorem fitting_longest (room : Nat) (cs : List Char) :
    ∃ kept, kept <+: cs ∧ fitting room cs = charsBytes kept ∧
      ∀ start, start <+: cs → (charsBytes start).length ≤ room → start <+: kept := by
  induction cs generalizing room with
  | nil => exact ⟨[], List.nil_prefix, rfl, fun start hstart _ => hstart⟩
  | cons c cs ih =>
    rw [fitting]
    split
    · next hc =>
      obtain ⟨kept, hkept, hfitting, hlongest⟩ := ih (room - c.utf8Size)
      refine ⟨c :: kept, (List.prefix_cons_inj c).mpr hkept, by rw [hfitting, charsBytes_cons], ?_⟩
      rintro (_ | ⟨d, start⟩) hstart hlength
      · exact List.nil_prefix
      · obtain ⟨rfl, htail⟩ := List.cons_prefix_cons.mp hstart
        rw [charsBytes_cons, List.length_append, length_charBytes] at hlength
        exact (List.prefix_cons_inj d).mpr (hlongest start htail (by omega))
    · next hc =>
      refine ⟨[], List.nil_prefix, rfl, ?_⟩
      rintro (_ | ⟨d, start⟩) hstart hlength
      · exact List.nil_prefix
      · obtain ⟨rfl, -⟩ := List.cons_prefix_cons.mp hstart
        rw [charsBytes_cons, List.length_append, length_charBytes] at hlength
        omega

theorem toList_padded_fitting (cs : List Char) :
    (Bytes.padded size (fitting capacity cs)).toList =
      fitting capacity cs ++ List.replicate (size - (fitting capacity cs).length) 0 :=
  Bytes.toList_padded (Nat.le_trans (length_fitting_le capacity cs) (by decide))

/-- There is one field that holds the longest start of a text. -/
theorem holdsStart_iff (field : Vector UInt8 size) (text : List Char) :
    HoldsStart field text ↔ field = Bytes.padded size (fitting capacity text) := by
  obtain ⟨kept, hkept, hfitting, hlongest⟩ := fitting_longest capacity text
  have hroom : (charsBytes kept).length ≤ capacity := hfitting ▸ length_fitting_le capacity text
  constructor
  · rintro ⟨kept', hkept', hroom', hlongest', hfield⟩
    have hsame : kept' = kept :=
      (hlongest kept' hkept' hroom').eq_of_length_le (hlongest' kept hkept hroom).length_le
    rw [← Vector.toList_inj, hfield, toList_padded_fitting, hfitting, hsame]
  · rintro rfl
    exact ⟨kept, hkept, hroom, hlongest, by rw [toList_padded_fitting, hfitting]⟩

/-! ## One part behind the other -/

/-- What parts leave in some room, each of them cut for itself. -/
def writtenInto : (room : Nat) → (parts : List String) → List UInt8
  | _, [] => []
  | room, part :: parts =>
    let kept := fitting room part.toList
    kept ++ writtenInto (room - kept.length) parts

/-- Whether nothing but zeros is left by the parts behind the first one that is cut. -/
def inOrder : (room : Nat) → (parts : List String) → Bool
  | _, [] => true
  | room, part :: parts =>
    let left := room - (fitting room part.toList).length
    if (charsBytes part.toList).length ≤ room then inOrder left parts
    else (writtenInto left parts).all (· = 0)

/-- Writing parts in order appends what they leave in the room that there is. -/
theorem foldl_append_eq (parts : List String) (written : List UInt8) :
    parts.foldl append written = written ++ writtenInto (capacity - written.length) parts := by
  induction parts generalizing written with
  | nil => simp [writtenInto]
  | cons part parts ih =>
    have hroom : size - 1 - written.length = capacity - written.length := rfl
    rw [List.foldl_cons, ih, append, hroom, writtenInto, List.append_assoc, List.length_append,
      Nat.sub_sub]

theorem length_writtenInto_le (room : Nat) (parts : List String) :
    (writtenInto room parts).length ≤ room := by
  induction parts generalizing room with
  | nil => exact Nat.zero_le _
  | cons part parts ih =>
    have hpart := length_fitting_le room part.toList
    have hrest := ih (room - (fitting room part.toList).length)
    rw [writtenInto, List.length_append]
    omega

/-- Characters that fit whole are followed by what fits into the rest of the room. -/
theorem fitting_append_of_le (h : (charsBytes xs).length ≤ room) (ys : List Char) :
    fitting room (xs ++ ys) = charsBytes xs ++ fitting (room - (charsBytes xs).length) ys := by
  induction xs generalizing room with
  | nil => rfl
  | cons c cs ih =>
    rw [charsBytes_cons, List.length_append, length_charBytes] at h
    have hc : c.utf8Size ≤ room := by omega
    have hcs : (charsBytes cs).length ≤ room - c.utf8Size := by omega
    rw [List.cons_append, fitting, if_pos hc, ih hcs, charsBytes_cons, List.length_append,
      length_charBytes, List.append_assoc, Nat.sub_sub]

theorem fitting_of_le (h : (charsBytes xs).length ≤ room) : fitting room xs = charsBytes xs := by
  have happend := fitting_append_of_le h []
  rwa [List.append_nil, fitting, List.append_nil] at happend

/-- Characters that do not fit whole end what fits, and leave room for less than one character. -/
theorem fitting_append_of_lt (h : room < (charsBytes xs).length) (ys : List Char) :
    fitting room (xs ++ ys) = fitting room xs ∧ room - (fitting room xs).length ≤ 3 := by
  induction xs generalizing room with
  | nil => exact absurd h (Nat.not_lt_zero _)
  | cons c cs ih =>
    rw [charsBytes_cons, List.length_append, length_charBytes] at h
    rw [List.cons_append, fitting, fitting]
    split
    · next hc =>
      have hcs : room - c.utf8Size < (charsBytes cs).length := by omega
      obtain ⟨happend, hleft⟩ := ih hcs
      rw [happend, List.length_append, length_charBytes]
      exact ⟨rfl, by omega⟩
    · next hc =>
      have hsize : c.utf8Size ≤ 4 := c.utf8Size_le_four
      exact ⟨rfl, by simp only [List.length_nil]; omega⟩

/-- Parts leave what their whole text leaves and at most three bytes more, which are zeros exactly
if no part behind a cut one leaves anything else. -/
theorem writtenInto_eq (room : Nat) (parts : List String) :
    ∃ late, writtenInto room parts = fitting room (parts.flatMap String.toList) ++ late ∧
      late.length ≤ 3 ∧ (inOrder room parts ↔ ∀ b ∈ late, b = 0) := by
  induction parts generalizing room with
  | nil => exact ⟨[], rfl, by decide, by simp [inOrder]⟩
  | cons part parts ih =>
    rw [writtenInto, inOrder, List.flatMap_cons]
    by_cases hfits : (charsBytes part.toList).length ≤ room
    · obtain ⟨late, hlate, hlength, horder⟩ := ih (room - (charsBytes part.toList).length)
      refine ⟨late, ?_, hlength, ?_⟩
      · rw [fitting_append_of_le hfits, fitting_of_le hfits, hlate, List.append_assoc]
      · rwa [if_pos hfits, fitting_of_le hfits]
    · obtain ⟨happend, hleft⟩ :=
        fitting_append_of_lt (Nat.lt_of_not_le hfits) (parts.flatMap String.toList)
      refine ⟨writtenInto (room - (fitting room part.toList).length) parts, by rw [happend], ?_, ?_⟩
      · exact Nat.le_trans (length_writtenInto_le _ parts) hleft
      · simp only [if_neg hfits, List.all_eq_true, decide_eq_true_eq]

/-! ## The field of a text in parts -/

/-- Bytes behind a written start do not show exactly if they are zeros. -/
theorem padded_append_eq_iff {written late : List UInt8} (h : written.length + late.length ≤ size) :
    Bytes.padded size (written ++ late) = Bytes.padded size written ↔ ∀ b ∈ late, b = 0 := by
  have hboth : (written ++ late).length ≤ size := by rwa [List.length_append]
  have hwritten : written.length ≤ size := by omega
  rw [← Vector.toList_inj, Bytes.toList_padded hboth, Bytes.toList_padded hwritten,
    List.append_assoc, List.append_cancel_left_eq]
  constructor
  · intro hzeros b hb
    exact List.eq_of_mem_replicate (hzeros ▸ List.mem_append_left _ hb)
  · intro hlate
    rw [List.eq_replicate_of_mem hlate, List.replicate_append_replicate, List.length_append,
      List.length_replicate]
    congr 1
    omega

/-- The field of some parts begins as the field of their text, and is that field if the parts leave
nothing out of order. -/
theorem ofParts_eq (parts : List String) :
    ∃ late, ofParts parts =
        Bytes.padded size (fitting capacity (parts.flatMap String.toList) ++ late) ∧
      late.length ≤ 3 ∧
      (ofParts parts = Bytes.padded size (fitting capacity (parts.flatMap String.toList)) ↔
        inOrder capacity parts) := by
  obtain ⟨late, hlate, hlength, horder⟩ := writtenInto_eq capacity parts
  have hfield : ofParts parts =
      Bytes.padded size (fitting capacity (parts.flatMap String.toList) ++ late) := by
    rw [ofParts, foldl_append_eq, List.nil_append, List.length_nil, Nat.sub_zero, hlate]
  have htotal := length_writtenInto_le capacity parts
  rw [hlate, List.length_append] at htotal
  refine ⟨late, hfield, hlength, ?_⟩
  rw [hfield, padded_append_eq_iff (Nat.le_trans htotal (by decide)), horder]

/-- A text in one piece is never out of order. -/
theorem inOrder_single (room : Nat) (text : String) : inOrder room [text] := by
  simp [inOrder, writtenInto]

theorem ofParts_single (text : String) :
    ofParts [text] = Bytes.padded size (fitting capacity text.toList) := by
  obtain ⟨-, -, -, horder⟩ := ofParts_eq [text]
  simpa using horder.mpr (inOrder_single capacity text)

/-- The field of some parts is a clean cut of their text exactly if they are in order. -/
theorem holdsStart_ofParts_iff (parts : List String) :
    HoldsStart (ofParts parts) (String.join parts).toList ↔ inOrder capacity parts := by
  obtain ⟨-, -, -, horder⟩ := ofParts_eq parts
  rwa [holdsStart_iff, String.toList_join]

/-- The field of some parts is that of their text in one piece exactly if they are in order. -/
theorem ofParts_eq_whole_iff (parts : List String) :
    ofParts parts = ofParts [String.join parts] ↔ inOrder capacity parts := by
  obtain ⟨-, -, -, horder⟩ := ofParts_eq parts
  rwa [ofParts_single, String.toList_join]

/-! ## Characters of one byte -/

theorem length_charsBytes_of_oneByte (hxs : ∀ c ∈ xs, c.utf8Size = 1) :
    (charsBytes xs).length = xs.length := by
  induction xs with
  | nil => rfl
  | cons c cs ih =>
    rw [charsBytes_cons, List.length_append, length_charBytes, hxs c List.mem_cons_self,
      ih fun d hd => hxs d (List.mem_cons_of_mem c hd), List.length_cons, Nat.add_comm]

/-- As many characters of one byte fit as there is room for. -/
theorem fitting_of_oneByte (hxs : ∀ c ∈ xs, c.utf8Size = 1) (room : Nat) :
    fitting room xs = charsBytes (xs.take room) := by
  induction xs generalizing room with
  | nil => simp [fitting, charsBytes]
  | cons c cs ih =>
    have hc : c.utf8Size = 1 := hxs c List.mem_cons_self
    rw [fitting, hc]
    cases room with
    | zero => rfl
    | succ room =>
      rw [if_pos (Nat.le_add_left 1 room), ih fun d hd => hxs d (List.mem_cons_of_mem c hd)]
      rfl

/-- A cut between characters of one byte leaves no room behind it. -/
theorem length_fitting_of_oneByte (hxs : ∀ c ∈ xs, c.utf8Size = 1)
    (h : room < (charsBytes xs).length) : (fitting room xs).length = room := by
  have htake : ∀ c ∈ xs.take room, c.utf8Size = 1 := fun c hc => hxs c (List.mem_of_mem_take hc)
  rw [length_charsBytes_of_oneByte hxs] at h
  rw [fitting_of_oneByte hxs, length_charsBytes_of_oneByte htake,
    List.length_take_of_le (Nat.le_of_lt h)]

/-- Parts with characters of one byte are in order, wherever they are cut. -/
theorem inOrder_of_oneByte (h : ∀ part ∈ parts, ∀ c ∈ part.toList, c.utf8Size = 1) (room : Nat) :
    inOrder room parts := by
  induction parts generalizing room with
  | nil => rfl
  | cons part parts ih =>
    have hpart := h part List.mem_cons_self
    rw [inOrder]
    split
    · exact ih (fun p hp => h p (List.mem_cons_of_mem part hp)) _
    · next hlt =>
      have hnothing : writtenInto 0 parts = [] :=
        List.eq_nil_of_length_eq_zero (Nat.le_zero.mp (length_writtenInto_le 0 parts))
      rw [length_fitting_of_oneByte hpart (Nat.lt_of_not_le hlt), Nat.sub_self, hnothing]
      rfl

end Message

namespace Event

/-- The message of an event written in parts is a clean cut of the whole text, and the event is the
one with that text in one piece, exactly if nothing is written behind a part that was cut. What may
be written there is at most three bytes. -/
theorem ofParts_clean_iff (kind : EventKind) (level : Level) (parts : List String) :
    (Message.HoldsStart (ofParts kind level parts).message (String.join parts).toList ↔
      Message.inOrder Message.capacity parts) ∧
    (ofParts kind level parts = ofText kind level (String.join parts) ↔
      Message.inOrder Message.capacity parts) ∧
    Message.HoldsStart (ofText kind level (String.join parts)).message (String.join parts).toList ∧
    ∃ late, late.length ≤ 3 ∧ (ofParts kind level parts).message = Bytes.padded Message.size
      (Message.fitting Message.capacity (String.join parts).toList ++ late) := by
  obtain ⟨late, hfield, hlength, -⟩ := Message.ofParts_eq parts
  have hevent : ofParts kind level parts = ofText kind level (String.join parts) ↔
      Message.ofParts parts = Message.ofParts [String.join parts] := by
    simp [ofParts, ofText]
  refine ⟨Message.holdsStart_ofParts_iff parts, ?_, ?_, late, hlength, ?_⟩
  · rw [hevent, Message.ofParts_eq_whole_iff]
  · exact (Message.holdsStart_iff _ _).mpr (Message.ofParts_single _)
  · rw [String.toList_join]
    exact hfield

/-- A part that is cut before its first character, which has two bytes, and a letter behind it. -/
def overtakingParts : List String := [String.ofList (List.replicate 62 'a'), "é", "b"]

theorem ofParts_overtakingParts :
    ¬ Message.HoldsStart (ofParts .pass .debug overtakingParts).message
        (String.join overtakingParts).toList ∧
      ofParts .pass .debug overtakingParts ≠
        ofText .pass .debug (String.join overtakingParts) := by
  have horder : Message.inOrder Message.capacity overtakingParts = false := by decide
  constructor
  · rw [ofParts, Message.holdsStart_ofParts_iff, horder]
    decide
  · intro hsame
    have hmessage := congrArg Event.message hsame
    rw [ofParts, ofText, ofParts, Message.ofParts_eq_whole_iff, horder] at hmessage
    exact absurd hmessage (by decide)

end Event
end IngressGate
