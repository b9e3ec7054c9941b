import IngressGate.Proofs.Checked.Scan
import IngressGate.Proofs.Run
/-!
# A cursor is a bounded forward reader

A cursor is asked for bytes time and again, with lengths of up to a whole word. Whatever has been
asked of it, it stands in the frame, and the next bytes are granted exactly if enough remain
(`bounded_after_uses`). A parser that keeps its position in a word comes to the same answers: it
never forms a sum that a word cannot hold, because it looks before it moves.
-/
namespace IngressGate.Cursor

open Checked

/-- The cursor stands in the frame: at one of its bytes, or at its end. -/
structure In (c : Cursor) (frame : List UInt8) : Prop where
  eq_within : c = .within frame c.position
  position_le : c.position ≤ frame.length

namespace In
variable {c : Cursor} {frame : List UInt8} {position : Nat}

theorem of_le (h : position ≤ frame.length) : (Cursor.within frame position).In frame := ⟨rfl, h⟩

theorem start : (Cursor.ofFrame frame).In frame := of_le (Nat.zero_le _)

theorem exists_within (h : c.In frame) :
    ∃ position, position ≤ frame.length ∧ c = .within frame position :=
  ⟨_, h.position_le, h.eq_within⟩

theorem rest_eq (h : c.In frame) : c.rest = frame.drop c.position := congrArg rest h.eq_within

theorem position_add_remaining (h : c.In frame) : c.position + c.remaining = frame.length := by
  rw [remaining, h.rest_eq, List.length_drop]
  exact Nat.add_sub_cancel' h.position_le

end In

/-! ## Uses of a cursor -/

/-- What is to be done with the next bytes: read them, look at them, or pass over them. -/
inductive Use.Kind
  | take
  | peek
  | skip
  deriving DecidableEq, Repr

/-- A use of a cursor: it is asked for the next bytes, as the header of the given name. -/
structure Use where
  kind : Use.Kind
  header : String
  length : UInt64
  deriving DecidableEq, Repr

namespace Use

/-- What is handed out of the bytes that were asked for. -/
def Kind.shown : Kind → List UInt8 → List UInt8
  | take, bs | peek, bs => bs
  | skip, _ => []

/-- How far the cursor moves if there are the `n` bytes that were asked for. -/
def Kind.stride : Kind → (n : Nat) → Nat
  | take, n | skip, n => n
  | peek, _ => 0

/-- A reader's use of its cursor. -/
def read (u : Use) : Reader (List UInt8) :=
  match u.kind with
  | .take => do return (← Reader.take u.header u.length.toNat).toList
  | .peek => do return (← Reader.peek u.header u.length.toNat).toList
  | .skip => do
    Reader.skip u.header u.length.toNat
    return []

/-- A parser's use of its place in a frame. -/
def parse (u : Use) : Parser (List UInt8) :=
  match u.kind with
  | .take => Parser.take u.header u.length.toNat
  | .peek => Parser.peek u.header u.length.toNat
  | .skip => do
    Parser.skip u.header u.length.toNat
    return []

/-- The answer to a use. -/
def answer : Cursor × Use → Except HeaderError (List UInt8)
  | (c, u) =>
    match u.read c with
    | .ok bs _ => .ok bs
    | .error e _ => .error e

/-- The cursor after a use. -/
def next (c : Cursor) (u : Use) : Cursor :=
  match u.read c with
  | .ok _ c' | .error _ c' => c'

/-- The bytes that a use has moved over: those that it has read, or those between the places before
and behind what it has passed over. -/
def passed (frame : List UInt8) : Cursor × Use → List UInt8
  | (c, u) =>
    match u.kind, u.read c with
    | .take, .ok bs _ => bs
    | .skip, .ok _ c' => (frame.take c'.position).drop c.position
    | _, _ => []

/-- A parser's uses of its place one after another, also behind one that is refused. -/
def parseAll (us : List Use) : StateT Scan Checked (List (Except HeaderError (List UInt8))) :=
  us.mapM fun u => u.parse.run

/-- What a use may rely on that finds the cursor `c` in a frame: it is granted if enough bytes
remain, and otherwise it is told how many there are and changes nothing. -/
structure Served (frame : List UInt8) (c : Cursor) (u : Use) : Prop where
  granted_iff : (∃ bs c', u.read c = .ok bs c') ↔ u.length.toNat ≤ c.remaining
  granted : ∀ bs c', u.read c = .ok bs c' →
    c.position + u.length.toNat < 2 ^ 64 ∧
      bs = u.kind.shown ((frame.drop c.position).take u.length.toNat) ∧
      c' = .within frame (c.position + u.kind.stride u.length.toNat)
  refused : ∀ e c', u.read c = .error e c' →
    e = .truncated u.header u.length.toNat c.remaining ∧ c' = c

/-! ## One use -/

section Place
variable {frame : List UInt8} {position : Nat} {u : Use}

theorem read_of_le (h : position + u.length.toNat ≤ frame.length) :
    u.read (.within frame position) =
      .ok (u.kind.shown ((frame.drop position).take u.length.toNat))
        (.within frame (position + u.kind.stride u.length.toNat)) := by
  have hremaining : u.length.toNat ≤ (Cursor.within frame position).remaining :=
    (le_remaining_within (Nat.le_of_add_right_le h)).mpr h
  cases hkind : u.kind <;> simp only [read, hkind]
  case take =>
    rw [Reader.bind_of_ok (Reader.take_of_le hremaining), Reader.pure_apply,
      toList_front_within, advance_within]
    rfl
  case peek =>
    rw [Reader.bind_of_ok (Reader.peek_of_le hremaining), Reader.pure_apply, toList_front_within]
    rfl
  case skip =>
    rw [Reader.bind_of_ok (Reader.skip_of_le hremaining), Reader.pure_apply, advance_within]
    rfl

theorem read_of_lt (hposition : position ≤ frame.length)
    (h : frame.length < position + u.length.toNat) :
    u.read (.within frame position) =
      .error (.truncated u.header u.length.toNat (Cursor.within frame position).remaining)
        (.within frame position) := by
  have hremaining : (Cursor.within frame position).remaining < u.length.toNat := by
    rw [← Nat.not_le, le_remaining_within hposition]
    exact Nat.not_le_of_lt h
  cases hkind : u.kind <;> simp only [read, hkind]
  case take => exact Reader.bind_of_error (Reader.take_of_lt hremaining)
  case peek => exact Reader.bind_of_error (Reader.peek_of_lt hremaining)
  case skip => exact Reader.bind_of_error (Reader.skip_of_lt hremaining)

theorem parse_of_le (hframe : frame.length < wordSize)
    (h : position + u.length.toNat ≤ frame.length) :
    u.parse (.within frame position) =
      .ok (.ok (u.kind.shown ((frame.drop position).take u.length.toNat)),
        .within frame (position + u.kind.stride u.length.toNat)) := by
  cases hkind : u.kind <;> simp only [parse, hkind]
  case take => exact Checked.take_of_le hframe h
  case peek => exact Checked.peek_of_le hframe h
  case skip =>
    rw [Parser.skip, bind_assoc, Checked.bind_of_ok (Checked.take_of_le hframe h)]
    rfl

theorem parse_of_lt (hposition : position ≤ frame.length)
    (h : frame.length < position + u.length.toNat) :
    u.parse (.within frame position) =
      .ok (.error (.truncated u.header u.length.toNat (Cursor.within frame position).remaining),
        .within frame position) := by
  cases hkind : u.kind <;> simp only [parse, hkind]
  case take => exact Checked.take_of_lt hposition h
  case peek => exact Checked.peek_of_lt hposition h
  case skip =>
    rw [Parser.skip, bind_assoc, Checked.bind_of_error (Checked.take_of_lt hposition h)]

end Place

section One
variable {frame : List UInt8} {c : Cursor}

/-- A use is granted, with the bytes at the position, or refused, with the cursor as it was. -/
theorem read_cases (h : c.In frame) (u : Use) :
    c.position + u.length.toNat ≤ frame.length ∧
        u.read c = .ok (u.kind.shown ((frame.drop c.position).take u.length.toNat))
          (.within frame (c.position + u.kind.stride u.length.toNat)) ∨
      frame.length < c.position + u.length.toNat ∧
        u.read c = .error (.truncated u.header u.length.toNat c.remaining) c := by
  obtain ⟨position, hposition, rfl⟩ := h.exists_within
  rcases Nat.lt_or_ge frame.length (position + u.length.toNat) with hlt | hle
  · exact .inr ⟨hlt, read_of_lt hposition hlt⟩
  · exact .inl ⟨hle, read_of_le hle⟩

theorem next_in (h : c.In frame) (u : Use) : (next c u).In frame := by
  obtain ⟨hle, hread⟩ | ⟨-, hread⟩ := read_cases h u
  · rw [next, hread]
    refine .of_le ?_
    cases u.kind with
    | take | skip => exact hle
    | peek => exact h.position_le
  · rw [next, hread]
    exact h

theorem served_of_in (hframe : frame.length < wordSize) (h : c.In frame) (u : Use) :
    u.Served frame c := by
  have hsum := h.position_add_remaining
  obtain ⟨hle, hread⟩ | ⟨hlt, hread⟩ := read_cases h u
  · refine ⟨iff_of_true ⟨_, _, hread⟩ (by omega), fun bs c' hok => ?_, fun e c' herror => ?_⟩
    · cases hread.symm.trans hok
      exact ⟨Nat.lt_of_le_of_lt hle hframe, rfl, rfl⟩
    · cases hread.symm.trans herror
  · refine ⟨iff_of_false ?_ (by omega), fun bs c' hok => ?_, fun e c' herror => ?_⟩
    · rintro ⟨bs, c', hok⟩
      cases hread.symm.trans hok
    · cases hread.symm.trans hok
    · cases hread.symm.trans herror
      exact ⟨rfl, rfl⟩

/-- The parser answers as the reader does, and moves as far. -/
theorem parse_eq (hframe : frame.length < wordSize) (h : c.In frame) (u : Use) :
    u.parse (.within frame c.position) =
      .ok (answer (c, u), .within frame (next c u).position) := by
  obtain ⟨hle, hread⟩ | ⟨hlt, hread⟩ := read_cases h u
  · rw [answer, next, hread]
    exact parse_of_le hframe hle
  · have hparse := parse_of_lt h.position_le hlt
    rw [← h.eq_within] at hparse
    rw [answer, next, hread]
    exact hparse

/-- What a use has moved over stands before what is ahead after it. -/
theorem passed_append (h : c.In frame) (u : Use) :
    passed frame (c, u) ++ (next c u).rest = c.rest := by
  obtain ⟨-, hread⟩ | ⟨-, hread⟩ := read_cases h u
  · have hsplit : (frame.drop c.position).take u.length.toNat ++
        frame.drop (c.position + u.length.toNat) = c.rest := by
      rw [← List.drop_drop, List.take_append_drop, h.rest_eq]
    cases hkind : u.kind <;> simp only [passed, next, hread, hkind]
    case take => exact hsplit
    case peek => exact h.rest_eq.symm
    case skip =>
      have hbetween : (frame.take (c.position + u.length.toNat)).drop c.position =
          (frame.drop c.position).take u.length.toNat := by
        rw [List.drop_take, Nat.add_sub_cancel_left]
      exact hbetween ▸ hsplit
  · cases hkind : u.kind <;> simp only [passed, next, hread, hkind] <;> rfl

end One

/-! ## One use after another -/

section All
variable {frame : List UInt8} {c : Cursor}

theorem parseAll_cons {u : Use} {us : List Use} {s s' s'' : Scan}
    {first : Except HeaderError (List UInt8)} {others : List (Except HeaderError (List UInt8))}
    (h : u.parse s = .ok (first, s')) (hs : parseAll us s' = .ok (others, s'')) :
    parseAll (u :: us) s = .ok (first :: others, s'') := by
  rw [parseAll, List.mapM_cons]
  change (StateT.bind u.parse _ s : Checked _) = _
  rw [StateT.bind, h]
  change (StateT.bind (parseAll us) (fun others => pure (first :: others)) s' : Checked _) = _
  rw [StateT.bind, hs]
  rfl

/-- Over all uses the parser answers as the reader does, and meets no fault. -/
theorem parseAll_eq (hframe : frame.length < wordSize) (h : c.In frame) (us : List Use) :
    parseAll us (.within frame c.position) =
      .ok ((Run.moments next c us).map answer, .within frame (Run.after next c us).position) := by
  induction us generalizing c with
  | nil => rfl
  | cons u us ih => exact parseAll_cons (parse_eq hframe h u) (ih (next_in h u))

theorem after_in (h : c.In frame) (us : List Use) : (Run.after next c us).In frame :=
  Run.invariant_after (In · frame) (fun _ u hc => next_in hc u) h us

/-- What the uses together have moved over is what the frame has before the cursor. -/
theorem flatMap_passed (frame : List UInt8) (us : List Use) :
    (Run.moments next (.ofFrame frame) us).flatMap (passed frame) =
      frame.take (Run.after next (.ofFrame frame) us).position := by
  have hrun : frame ++ (Run.moments next (.ofFrame frame) us).flatMap (fun _ => []) =
      (Run.moments next (.ofFrame frame) us).flatMap (passed frame) ++
        (Run.after next (.ofFrame frame) us).rest :=
    Run.conserved (In · frame) rest (fun _ u hc => next_in hc u)
      (fun _ u hc => (List.append_nil _).trans (passed_append hc u).symm) .start us
  rw [(after_in .start us).rest_eq, List.flatMap_eq_nil_iff.mpr fun _ _ => rfl,
    List.append_nil] at hrun
  exact List.append_cancel_right (hrun.symm.trans (List.take_append_drop _ frame).symm)

end All

end Use

open Use

/-- **A cursor is a bounded forward reader, whatever is asked of it.** After any uses, the position
and what remains make up the frame, and what was moved over is the frame up to the position. The
next use is granted if and only if enough bytes remain, with exactly the bytes at the position, and
one that is refused changes nothing. A parser that computes in words gives the same answers to all
uses, and no sum is ever too large for it. -/
theorem bounded_after_uses (frame : List UInt8) (hframe : frame.length < 2 ^ 64) (us : List Use) :
    let c := Run.after next (.ofFrame frame) us
    let ms := Run.moments next (.ofFrame frame) us
    c.position + c.remaining = frame.length ∧
      ms.flatMap (passed frame) = frame.take c.position ∧
      (∀ u : Use, u.Served frame c) ∧
      parseAll us (.within frame 0) = .ok (ms.map answer, .within frame c.position) := by
  intro c ms
  have hin : c.In frame := after_in .start us
  exact ⟨hin.position_add_remaining, flatMap_passed frame us, served_of_in hframe hin,
    parseAll_eq hframe .start us⟩

/-- Of five bytes, the third use asks for more than a word can count from its place on. -/
theorem bounded_after_hugeUse :
    [10, 20, 30, 40, 50].length < 2 ^ 64 ∧
      parseAll [⟨.take, "a", 2⟩, ⟨.peek, "b", 3⟩, ⟨.skip, "c", 0xFFFFFFFFFFFFFFFF⟩, ⟨.skip, "d", 2⟩]
          (.within [10, 20, 30, 40, 50] 0) =
        .ok ([.ok [10, 20], .ok [30, 40, 50], .error (.truncated "c" (2 ^ 64 - 1) 3), .ok []],
          .within [10, 20, 30, 40, 50] 4) ∧
      ∀ u : Use, u.Served [10, 20, 30, 40, 50] ⟨4, [50]⟩ := by
  obtain ⟨-, -, hserved, hparse⟩ := bounded_after_uses [10, 20, 30, 40, 50] (by decide)
    [⟨.take, "a", 2⟩, ⟨.peek, "b", 3⟩, ⟨.skip, "c", 0xFFFFFFFFFFFFFFFF⟩, ⟨.skip, "d", 2⟩]
  exact ⟨by decide, hparse, hserved⟩

end IngressGate.Cursor
