/-!
# Reading headers from a frame

A `Reader` consumes a frame from a `Cursor` that only moves forward. A request for more bytes than
remain fails with `HeaderError.truncated` and moves nothing; a failing reader keeps the position it
had reached, so that the caller can tell how far it got.
-/
namespace IngressGate

/-- A header or record whose bytes are all there and contradict its format. -/
inductive Flaw
  | ipv4Version
  | ipv4HeaderLength
  | ipv6Version
  | tcpDataOffset
  | recordKind
  | recordLevel
  deriving DecidableEq, Repr

namespace Flaw

/-- The name of the header at fault. -/
def header : Flaw → String
  | ipv4Version | ipv4HeaderLength => "ipv4"
  | ipv6Version => "ipv6"
  | tcpDataOffset => "tcp"
  | recordKind | recordLevel => "log record"

/-- What is wrong with it. -/
def reason : Flaw → String
  | ipv4Version => "version is not 4"
  | ipv4HeaderLength => "IHL below 5"
  | ipv6Version => "version is not 6"
  | tcpDataOffset => "data offset below 5"
  | recordKind => "unknown event kind"
  | recordLevel => "unknown level"

end Flaw

/-- Why a header could not be read. -/
inductive HeaderError
  | truncated (header : String) (needed remaining : Nat)
  | unsupportedExtension (type : UInt8)
  | malformed (flaw : Flaw)
  deriving DecidableEq, Repr

/-- The wording of a header error. -/
def HeaderError.message : HeaderError → String
  | truncated header needed remaining =>
    s!"{header} header truncated: need {needed} bytes, {remaining} remaining"
  | unsupportedExtension type => s!"unsupported IPv6 extension header {type}"
  | malformed flaw => s!"malformed {flaw.header} header: {flaw.reason}"

/-- A position in a frame: how many bytes lie behind it, and the bytes ahead. -/
structure Cursor where
  position : Nat
  rest : List UInt8
  deriving DecidableEq, Repr

namespace Cursor

/-- The start of a frame. -/
def ofFrame (frame : List UInt8) : Cursor := ⟨0, frame⟩

/-- How many bytes lie ahead. -/
def remaining (c : Cursor) : Nat := c.rest.length

/-- The next `n` bytes. -/
def front (c : Cursor) (n : Nat) (h : n ≤ c.remaining) : Vector UInt8 n :=
  ⟨(c.rest.take n).toArray, by
    simp only [List.size_toArray, List.length_take]; exact Nat.min_eq_left h⟩

/-- The position `n` bytes further on. -/
def advance (c : Cursor) (n : Nat) : Cursor := ⟨c.position + n, c.rest.drop n⟩

end Cursor

/-- A computation that reads headers; its cursor survives a failure. -/
abbrev Reader := EStateM HeaderError Cursor

namespace Reader

/-- The next `n` bytes, without moving. -/
def peek (header : String) (n : Nat) : Reader (Vector UInt8 n) := fun c =>
  if h : n ≤ c.remaining then .ok (c.front n h) c else .error (.truncated header n c.remaining) c

/-- Moves over the next `n` bytes. -/
def skip (header : String) (n : Nat) : Reader Unit := fun c =>
  if n ≤ c.remaining then .ok () (c.advance n) else .error (.truncated header n c.remaining) c

/-- Reads the next `n` bytes. -/
def take (header : String) (n : Nat) : Reader (Vector UInt8 n) := fun c =>
  if h : n ≤ c.remaining then .ok (c.front n h) (c.advance n)
  else .error (.truncated header n c.remaining) c

/-- Gives up on a header that contradicts its format. -/
def reject {α : Type} (e : HeaderError) : Reader α := throw e

variable {n : Nat} {c : Cursor} {header : String}

theorem peek_of_le (h : n ≤ c.remaining) : peek header n c = .ok (c.front n h) c := dif_pos h

theorem peek_of_lt (h : c.remaining < n) :
    peek header n c = .error (.truncated header n c.remaining) c := dif_neg (by omega)

theorem skip_of_le (h : n ≤ c.remaining) : skip header n c = .ok () (c.advance n) := if_pos h

theorem skip_of_lt (h : c.remaining < n) :
    skip header n c = .error (.truncated header n c.remaining) c := if_neg (by omega)

theorem take_of_le (h : n ≤ c.remaining) :
    take header n c = .ok (c.front n h) (c.advance n) := dif_pos h

theorem take_of_lt (h : c.remaining < n) :
    take header n c = .error (.truncated header n c.remaining) c := dif_neg (by omega)

end Reader

end IngressGate
