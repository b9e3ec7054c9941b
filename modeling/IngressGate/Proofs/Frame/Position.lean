import Mathlib.Tactic.Common
import IngressGate.Proofs.Frame.Headers
import IngressGate.Proofs.Frame.Ipv6
/-!
# Readers do not know where they are

A reader of headers sees the bytes ahead of its cursor and not the offset of the cursor in the
frame. At two places with the same bytes ahead it comes to the same header, or to the same error
with the same byte counts in it, and in the first case there are again the same bytes ahead.
-/
namespace IngressGate

open Bytes

namespace Reader
variable {α : Type}

/-- Two readings come to the same, but perhaps at different offsets. -/
inductive SameButOffset : (x y : EStateM.Result HeaderError Cursor α) → Prop
  | ok {a c c'} : c.rest = c'.rest → SameButOffset (.ok a c) (.ok a c')
  | error {e c c'} : SameButOffset (.error e c) (.error e c')

end Reader

open Reader

variable {c c' : Cursor}

theorem Cursor.remaining_congr (h : c.rest = c'.rest) : c.remaining = c'.remaining :=
  congrArg List.length h

theorem Cursor.rest_advance_congr (h : c.rest = c'.rest) (n : Nat) :
    (c.advance n).rest = (c'.advance n).rest := congrArg (List.drop n) h

theorem Ipv4.read_congr (h : c.rest = c'.rest) :
    SameButOffset (Ipv4.read c) (Ipv4.read c') := by
  rw [read_eq, read_eq, Cursor.remaining_congr h, h]
  split_ifs
  · exact .error
  · exact .error
  · exact .error
  · exact .error
  · exact .ok (Cursor.rest_advance_congr h _)

namespace Ipv6

/-- A chain leads on from every place with the same bytes ahead. -/
theorem Reaches.congr {base : Vector UInt8 40} {es : List Extension} {last : UInt8} {d : Cursor}
    (r : Reaches c base es last d) (h : c.rest = c'.rest) :
    Reaches c' base es last ⟨c'.position + 40 + (bytesOf es).length, d.rest⟩ where
  rest_eq := h ▸ r.rest_eq
  position_eq := rfl
  version_eq := h ▸ r.version_eq
  linked := h ▸ r.linked
  length_le := r.length_le

theorem read_congr (h : c.rest = c'.rest) : SameButOffset (read c) (read c') := by
  obtain ⟨o, ho⟩ := exists_outcome c
  have hremaining := Cursor.remaining_congr h
  rw [ho.read_eq]
  -- The conditions of every outcome speak of the bytes ahead alone.
  cases ho with
  | short hlt =>
    rw [hremaining] at hlt ⊢
    rw [(Outcome.short hlt).read_eq]
    exact .error
  | otherVersion h40 hversion =>
    rw [hremaining] at h40
    rw [h] at hversion
    rw [(Outcome.otherVersion h40 hversion).read_eq]
    exact .error
  | resolved r hext href =>
    rw [(Outcome.resolved (r.congr h) hext href).read_eq]
    exact .ok rfl
  | unsupported r hlast =>
    rw [(Outcome.unsupported (r.congr h) hlast).read_eq]
    exact .error
  | truncated r hlt hcut =>
    rw [(Outcome.truncated (r.congr h) hlt hcut).read_eq]
    exact .error

end Ipv6

end IngressGate
