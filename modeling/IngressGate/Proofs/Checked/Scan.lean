import IngressGate.Proofs.Checked.Operations
import IngressGate.Proofs.Frame.Reading
import IngressGate.Proofs.Text.Plain
/-!
# Checked parsers

A checked parser keeps the whole frame, a position in it and the place where it ends, and reads the
frame by number. `Follows` says that it does what a reader does, which takes the bytes off the list
of those that remain: it never meets a fault, never gets behind the end of the frame, and comes to a
related result at the same position. This is closed under sequencing, so that a parser is compared
with a reader step by step.
-/
namespace IngressGate

open Text

/-- A position in a frame. -/
def Cursor.within (frame : List UInt8) (position : Nat) : Cursor := ⟨position, frame.drop position⟩

namespace Checked

/-- A place in a frame: the whole frame, the number of the next byte and the end. -/
structure Scan where
  frame : List UInt8
  position : Nat
  stop : Nat

namespace Scan

/-- A place in a frame that is to be read to its own end. -/
def within (frame : List UInt8) (position : Nat) : Scan := ⟨frame, position, frame.length⟩

/-- How many bytes lie ahead. -/
def remaining (s : Scan) : Checked Nat := sub s.stop s.position

end Scan

/-- A parser of a frame. A header that it cannot read is a result like any other, a fault is not. -/
abbrev Parser := ExceptT HeaderError (StateT Scan Checked)

namespace Parser
variable {α : Type}

/-- Gives up for want of bytes. -/
def truncated (header : String) (n : Nat) : Parser α := ExceptT.mk fun s => do
  return (.error (.truncated header n (← s.remaining)), s)

/-- The next `n` bytes, without moving. -/
def peek (header : String) (n : Nat) : Parser (List UInt8) := ExceptT.mk fun s =>
  match add? s.position n with
  | some stop =>
    if stop ≤ s.stop then return (.ok (← range s.frame s.position stop), s)
    else truncated header n s
  | none => truncated header n s

/-- Moves the position forward. -/
def move (n : Nat) : Parser Unit := ExceptT.mk fun s => do
  return (.ok (), { s with position := ← add s.position n })

/-- Reads the next `n` bytes. -/
def take (header : String) (n : Nat) : Parser (List UInt8) := do
  let bytes ← peek header n
  move n
  return bytes

/-- Moves over the next `n` bytes. -/
def skip (header : String) (n : Nat) : Parser Unit := do
  let _ ← take header n

/-- A header that contradicts its format. -/
def reject (e : HeaderError) : Parser α := throw e

end Parser

/-! ## Doing what a reader does -/

/-- The runs of a parser and of a reader have come to the same, in a given frame: related results or
the same error, which is worded plainly, at the same position of the frame. -/
inductive Agrees {α β : Type} (frame : List UInt8) (Rel : α → β → Prop) :
    Checked (Except HeaderError α × Scan) → EStateM.Result HeaderError Cursor β → Prop
  | ok {a : α} {b : β} {position : Nat} (h : position ≤ frame.length) (hrel : Rel a b) :
    Agrees frame Rel (.ok (.ok a, .within frame position)) (.ok b (.within frame position))
  | error {e : HeaderError} {position : Nat} (h : position ≤ frame.length)
    (he : Plain e.message) :
    Agrees frame Rel (.ok (.error e, .within frame position)) (.error e (.within frame position))

/-- The parser does what the reader does, wherever it starts in a frame whose positions fit into a
word. -/
def Follows {α β : Type} (Rel : α → β → Prop) (p : Parser α) (r : Reader β) : Prop :=
  ∀ frame position, frame.length < 2 ^ 63 → position ≤ frame.length →
    Agrees frame Rel (p (.within frame position)) (r (.within frame position))

section Runs
variable {α β : Type} {p : Parser α} {k : α → Parser β} {s s' : Scan} {x : Checked α}

theorem bind_of_ok {a : α} (h : p s = .ok (.ok a, s')) : (p >>= k) s = k a s' := by
  change (StateT.bind p _ s : Checked _) = _
  rw [StateT.bind, h]
  rfl

theorem bind_of_error {e : HeaderError} (h : p s = .ok (.error e, s')) :
    (p >>= k) s = .ok (.error e, s') := by
  change (StateT.bind p _ s : Checked _) = _
  rw [StateT.bind, h]
  rfl

theorem lift_bind {a : α} (h : x = .ok a) : ((x : Parser α) >>= k) s = k a s := by
  subst h
  rfl

end Runs

namespace Follows
variable {α β γ δ : Type} {Rel : α → β → Prop} {Rel' : γ → δ → Prop}

theorem pure {a : α} {b : β} (h : Rel a b) :
    Follows Rel (pure a) (pure b) := fun _ _ _ hposition => .ok hposition h

theorem reject {e : HeaderError} (he : Plain e.message) :
    Follows Rel (Parser.reject e) (Reader.reject e) := fun _ _ _ hposition => .error hposition he

theorem bind {p : Parser α} {r : Reader β} {k : α → Parser γ} {l : β → Reader δ}
    (h : Follows Rel p r) (hk : ∀ a b, Rel a b → Follows Rel' (k a) (l b)) :
    Follows Rel' (p >>= k) (r >>= l) := by
  intro frame position hframe hposition
  generalize hx : p (.within frame position) = x
  generalize hy : r (.within frame position) = y
  have hagree : Agrees frame Rel x y := hx ▸ hy ▸ h frame position hframe hposition
  cases hagree with
  | ok hposition' hrel =>
    rw [bind_of_ok hx, Reader.bind_of_ok hy]
    exact hk _ _ hrel frame _ hframe hposition'
  | error hposition' he =>
    rw [bind_of_error hx, Reader.bind_of_error hy]
    exact .error hposition' he

/-- What a reader makes of its result does not matter to a parser of a related one. -/
theorem map {p : Parser α} {r : Reader β} {f : β → δ} {Rel : α → δ → Prop}
    (h : Follows (fun a b => Rel a (f b)) p r) : Follows Rel p (do return f (← r)) := by
  rw [← bind_pure p]
  exact h.bind fun a b hrel => .pure hrel

/-- A step that only computes cannot fail on its own. -/
theorem lift {x : Checked α} {a : α} {k : α → Parser γ} {r : Reader δ} (hx : x = .ok a)
    (h : Follows Rel' (k a) r) : Follows Rel' ((x : Parser α) >>= k) r := by
  intro frame position hframe hposition
  rw [lift_bind hx]
  exact h frame position hframe hposition

end Follows

/-! ## Steps of a parser -/

section Steps
variable {frame : List UInt8} {position n : Nat} {header : String}

theorem lt_wordSize (h : n < 2 ^ 63) : n < wordSize := Nat.lt_trans h (by decide)

theorem remaining_within (h : position ≤ frame.length) :
    (Scan.within frame position).remaining = .ok (Cursor.within frame position).remaining := by
  rw [Scan.remaining, Scan.within, sub_eq h, Cursor.remaining, Cursor.within, List.length_drop]

theorem truncated_within {α : Type} (h : position ≤ frame.length) :
    (Parser.truncated header n : Parser α) (.within frame position) =
      .ok (.error (.truncated header n (Cursor.within frame position).remaining),
        .within frame position) := by
  change ((Scan.within frame position).remaining >>= _ : Checked _) = _
  rw [remaining_within h]
  rfl

theorem peek_apply (s : Scan) : Parser.peek header n s =
    match add? s.position n with
    | some stop =>
      if stop ≤ s.stop then return (.ok (← range s.frame s.position stop), s)
      else Parser.truncated header n s
    | none => Parser.truncated header n s := rfl

theorem peek_of_le (hframe : frame.length < wordSize) (h : position + n ≤ frame.length) :
    Parser.peek header n (.within frame position) =
      .ok (.ok ((frame.drop position).take n), .within frame position) := by
  have hword : position + n < wordSize := Nat.lt_of_le_of_lt h hframe
  have hadd : add? (Scan.within frame position).position n = some (position + n) := if_pos hword
  have hstop : position + n ≤ (Scan.within frame position).stop := h
  have hrange : range (Scan.within frame position).frame (Scan.within frame position).position
      (position + n) = .ok ((frame.drop position).take n) := by
    rw [Scan.within, range_eq (Nat.le_add_right _ _) h, List.drop_take, Nat.add_sub_cancel_left]
  simp only [peek_apply, hadd, if_pos hstop, hrange]
  rfl

theorem peek_of_lt (hposition : position ≤ frame.length) (h : frame.length < position + n) :
    Parser.peek header n (.within frame position) =
      .ok (.error (.truncated header n (Cursor.within frame position).remaining),
        .within frame position) := by
  have hstop : ¬ (Scan.within frame position).position + n ≤ (Scan.within frame position).stop :=
    Nat.not_le_of_lt h
  rw [peek_apply, add?]
  split_ifs
  · exact (if_neg hstop).trans (truncated_within hposition)
  · exact truncated_within hposition

theorem move_within (hframe : frame.length < wordSize) (h : position + n ≤ frame.length) :
    Parser.move n (.within frame position) = .ok (.ok (), .within frame (position + n)) := by
  have hword : position + n < wordSize := Nat.lt_of_le_of_lt h hframe
  change (add position n >>= _ : Checked _) = _
  rw [add_eq hword]
  rfl

theorem take_of_le (hframe : frame.length < wordSize) (h : position + n ≤ frame.length) :
    Parser.take header n (.within frame position) =
      .ok (.ok ((frame.drop position).take n), .within frame (position + n)) := by
  rw [Parser.take, bind_of_ok (peek_of_le hframe h), bind_of_ok (move_within hframe h)]
  rfl

theorem take_of_lt (hposition : position ≤ frame.length) (h : frame.length < position + n) :
    Parser.take header n (.within frame position) =
      .ok (.error (.truncated header n (Cursor.within frame position).remaining),
        .within frame position) := by
  rw [Parser.take, bind_of_error (peek_of_lt hposition h)]

end Steps

end Checked

/-! ## Steps of a reader -/

namespace Cursor
variable {frame : List UInt8} {position n : Nat}

theorem advance_within :
    (Cursor.within frame position).advance n = .within frame (position + n) := by
  rw [advance, within, List.drop_drop, within]

theorem le_remaining_within (h : position ≤ frame.length) :
    n ≤ (Cursor.within frame position).remaining ↔ position + n ≤ frame.length := by
  rw [remaining, within, List.length_drop]
  omega

theorem toList_front_within (h : n ≤ (Cursor.within frame position).remaining) :
    ((Cursor.within frame position).front n h).toList = (frame.drop position).take n := by
  simp [front, within, Vector.toList]

/-- There are `n` bytes ahead, or too few. -/
theorem enough_or_short (h : position ≤ frame.length) (n : Nat) :
    (position + n ≤ frame.length ∧ n ≤ (Cursor.within frame position).remaining) ∨
      (frame.length < position + n ∧ (Cursor.within frame position).remaining < n) := by
  rw [← le_remaining_within h, ← Nat.not_le, ← Nat.not_le, ← le_remaining_within h, and_self,
    and_self]
  exact em _

end Cursor

namespace Checked

section AfterBytes
variable {γ δ : Type} {Rel : γ → δ → Prop} {frame : List UInt8} {position n : Nat} {header : String}

/-- What comes behind a look ahead is done with the bytes still there. -/
theorem Agrees.peek {k : List UInt8 → Parser γ} {l : Vector UInt8 n → Reader δ}
    (hframe : frame.length < 2 ^ 63) (hposition : position ≤ frame.length) (hheader : Plain header)
    (h : ∀ field : Vector UInt8 n, field.toList = (frame.drop position).take n →
      Agrees frame Rel (k field.toList (.within frame position))
        (l field (.within frame position))) :
    Agrees frame Rel ((Parser.peek header n >>= k) (.within frame position))
      ((Reader.peek header n >>= l) (.within frame position)) := by
  obtain ⟨hle, hremaining⟩ | ⟨hlt, hremaining⟩ := Cursor.enough_or_short hposition n
  · have hbytes := Cursor.toList_front_within hremaining
    rw [bind_of_ok (peek_of_le (lt_wordSize hframe) hle),
      Reader.bind_of_ok (Reader.peek_of_le hremaining), ← hbytes]
    exact h _ hbytes
  · rw [bind_of_error (peek_of_lt hposition hlt),
      Reader.bind_of_error (Reader.peek_of_lt hremaining)]
    exact .error hposition (HeaderError.plain_truncated hheader _ _)

/-- A parser that takes bytes moves as a reader does that moves over them. -/
theorem Agrees.take_skip {k : List UInt8 → Parser γ} {l : Unit → Reader δ}
    (hframe : frame.length < 2 ^ 63) (hposition : position ≤ frame.length) (hheader : Plain header)
    (h : position + n ≤ frame.length →
      Agrees frame Rel (k ((frame.drop position).take n) (.within frame (position + n)))
        (l () (.within frame (position + n)))) :
    Agrees frame Rel ((Parser.take header n >>= k) (.within frame position))
      ((Reader.skip header n >>= l) (.within frame position)) := by
  obtain ⟨hle, hremaining⟩ | ⟨hlt, hremaining⟩ := Cursor.enough_or_short hposition n
  · rw [bind_of_ok (take_of_le (lt_wordSize hframe) hle),
      Reader.bind_of_ok (Reader.skip_of_le hremaining), Cursor.advance_within]
    exact h hle
  · rw [bind_of_error (take_of_lt hposition hlt),
      Reader.bind_of_error (Reader.skip_of_lt hremaining)]
    exact .error hposition (HeaderError.plain_truncated hheader _ _)

end AfterBytes

namespace Follows

theorem peek (header : String) (n : Nat) (hheader : Plain header := by decide) :
    Follows (fun bytes (field : Vector UInt8 n) => bytes = field.toList) (Parser.peek header n)
      (Reader.peek header n) := by
  intro frame position hframe hposition
  rw [← bind_pure (Parser.peek header n), ← bind_pure (Reader.peek header n)]
  exact .peek hframe hposition hheader fun field _ => .ok hposition rfl

theorem skip (header : String) (n : Nat) (hheader : Plain header := by decide) :
    Follows (fun (_ _ : Unit) => True) (Parser.skip header n) (Reader.skip header n) := by
  intro frame position hframe hposition
  rw [← bind_pure (Reader.skip header n)]
  exact .take_skip hframe hposition hheader fun hle => .ok hle trivial

theorem take (header : String) (n : Nat) (hheader : Plain header := by decide) :
    Follows (fun bytes (field : Vector UInt8 n) => bytes = field.toList) (Parser.take header n)
      (Reader.take header n) := by
  intro frame position hframe hposition
  obtain ⟨hle, hremaining⟩ | ⟨hlt, hremaining⟩ := Cursor.enough_or_short hposition n
  · rw [take_of_le (lt_wordSize hframe) hle, Reader.take_of_le hremaining, Cursor.advance_within]
    exact .ok hle (Cursor.toList_front_within hremaining).symm
  · rw [take_of_lt hposition hlt, Reader.take_of_lt hremaining]
    exact .error hposition (HeaderError.plain_truncated hheader _ _)

end Follows

end Checked

end IngressGate
