import Mathlib.Algebra.Order.BigOperators.Group.List
import Mathlib.Algebra.GroupWithZero.Nat
import Mathlib.Algebra.Order.Group.Nat
import IngressGate.Proofs.Frame.Headers
import IngressGate.Proofs.Frame.Ipv6
/-!
# Where readers stop

A reader of headers never moves back, and never past the end of the frame. It stops behind the
header that it has read. When it fails, it stops where it began if it looks at a header before it
moves, and otherwise behind the parts of the header that were there. `readers_stop` says which of
these it is, for all readers and all their errors.
-/
namespace IngressGate

open Bytes

/-- A reading has begun at `c` and stopped `k` bytes further on, all of which the frame has: with a
header for which `Reads` allows this, or with an error for which `Fails` does. -/
inductive Reader.Stops {α : Type} (c : Cursor) (Reads : α → (k : Nat) → Prop)
    (Fails : HeaderError → (k : Nat) → Prop) : EStateM.Result HeaderError Cursor α → Prop
  | ok {a k} : k ≤ c.remaining → Reads a k → Stops c Reads Fails (.ok a (c.advance k))
  | error {e k} : k ≤ c.remaining → Fails e k → Stops c Reads Fails (.error e (c.advance k))

open Reader

/-! ## Headers of bounded size -/

namespace Ethernet
variable (c : Cursor)

/-- Where a header is read: behind its tag, if there is one. -/
inductive Reads : Header → (k : Nat) → Prop
  | untagged {h} : wordAt c.rest 12 ≠ 0x8100 → h.tag = none → Reads h 14
  | tagged {h tag} : wordAt c.rest 12 = 0x8100 → h.tag = some tag → Reads h 18

/-- Where reading fails: where it began, or where a tag should be. -/
inductive Fails : HeaderError → (k : Nat) → Prop
  | header : c.remaining < 14 → Fails (.truncated "ethernet" 14 c.remaining) 0
  | tag : 14 ≤ c.remaining → c.remaining < 18 → wordAt c.rest 12 = 0x8100 →
      Fails (.truncated "vlan" 4 (c.remaining - 14)) 14

theorem stops_read : Stops c (Reads c) (Fails c) (read c) := by
  rw [read_eq]
  split_ifs with h14 htag h18
  · exact .error (Nat.zero_le _) (.header h14)
  · exact .error (Nat.le_of_not_lt h14) (.tag (Nat.le_of_not_lt h14) h18 htag)
  · exact .ok (Nat.le_of_not_lt h18) (.tagged htag rfl)
  · exact .ok (Nat.le_of_not_lt h14) (.untagged htag rfl)

end Ethernet

namespace Ipv4
variable (c : Cursor)

/-- Where reading fails: always where it began. -/
inductive Fails : HeaderError → (k : Nat) → Prop
  | fixedPart : c.remaining < 20 → Fails (.truncated "ipv4" 20 c.remaining) 0
  | version : 20 ≤ c.remaining → (byteAt c.rest 0).toNat / 16 ≠ 4 →
      Fails (.malformed .ipv4Version) 0
  | headerLength : 20 ≤ c.remaining → (byteAt c.rest 0).toNat % 16 < 5 →
      Fails (.malformed .ipv4HeaderLength) 0
  | options : 20 ≤ c.remaining → c.remaining < 4 * ((byteAt c.rest 0).toNat % 16) →
      Fails (.truncated "ipv4" (4 * ((byteAt c.rest 0).toNat % 16)) c.remaining) 0

theorem stops_read :
    Stops c (fun h k => k = h.length ∧ k = 4 * ((byteAt c.rest 0).toNat % 16) ∧ 20 ≤ k ∧ k ≤ 60)
      (Fails c) (read c) := by
  rw [read_eq]
  split_ifs with h20 hversion hwords hlength
  · exact .error (Nat.zero_le _) (.fixedPart h20)
  · exact .error (Nat.zero_le _) (.version (Nat.le_of_not_lt h20) hversion)
  · exact .error (Nat.zero_le _) (.headerLength (Nat.le_of_not_lt h20) hwords)
  · exact .error (Nat.zero_le _) (.options (Nat.le_of_not_lt h20) hlength)
  · refine .ok (Nat.le_of_not_lt hlength) ⟨(length_ofBytes c.rest).symm, rfl, ?_, ?_⟩ <;> omega

end Ipv4

namespace Tcp
variable (c : Cursor)

/-- Where reading fails: where it began, or behind the fixed part that is malformed. -/
inductive Fails : HeaderError → (k : Nat) → Prop
  | fixedPart : c.remaining < 20 → Fails (.truncated "tcp" 20 c.remaining) 0
  | dataOffset : 20 ≤ c.remaining → (byteAt c.rest 12).toNat / 16 < 5 →
      Fails (.malformed .tcpDataOffset) 20

theorem stops_read : Stops c (fun _ k => k = 20) (Fails c) (read c) := by
  rw [read_eq]
  split_ifs with h20 hoffset
  · exact .error (Nat.zero_le _) (.fixedPart h20)
  · exact .error (Nat.le_of_not_lt h20) (.dataOffset (Nat.le_of_not_lt h20) hoffset)
  · exact .ok (Nat.le_of_not_lt h20) rfl

end Tcp

namespace Udp
variable (c : Cursor)

/-- Where reading fails: where it began. -/
inductive Fails : HeaderError → (k : Nat) → Prop
  | header : c.remaining < 8 → Fails (.truncated "udp" 8 c.remaining) 0

theorem stops_read : Stops c (fun _ k => k = 8) (Fails c) (read c) := by
  rw [read_eq]
  split_ifs with h8
  · exact .error (Nat.zero_le _) (.header h8)
  · exact .ok (Nat.le_of_not_lt h8) rfl

end Udp

/-! ## Headers with a chain -/

namespace Ipv6

theorem extensionLength_le (type n : UInt8) : extensionLength type n ≤ 2048 := by
  have hn : n.toNat < 256 := n.toNat_lt
  rw [extensionLength]
  split_ifs <;> omega

/-- How many bytes a base header and its extension headers take. -/
def headersLength (es : List Extension) : Nat := 40 + (es.map (·.bytes.length)).sum

theorem headersLength_le {es : List Extension} (h : es.length ≤ 6) :
    headersLength es ≤ 40 + 6 * 2048 := by
  have hone : ∀ n ∈ es.map (·.bytes.length), n ≤ 2048 := by
    intro n hn
    obtain ⟨e, -, rfl⟩ := List.mem_map.mp hn
    exact e.length_eq ▸ extensionLength_le e.type _
  have hsum := List.sum_le_card_nsmul _ 2048 hone
  rw [List.length_map, Nat.nsmul_eq_mul] at hsum
  rw [headersLength]
  omega

theorem length_headers (base : Vector UInt8 40) (es : List Extension) :
    (base.toList ++ bytesOf es).length = headersLength es := by
  rw [List.length_append, Vector.length_toList, bytesOf, List.length_flatMap, headersLength]

namespace Reaches
variable {c c' : Cursor} {base : Vector UInt8 40} {es : List Extension} {last : UInt8}

/-- A chain leads over its headers. -/
theorem eq_advance (r : Reaches c base es last c') : c' = c.advance (headersLength es) := by
  have hposition : c'.position = c.position + headersLength es := by
    rw [r.position_eq, Nat.add_assoc, bytesOf, List.length_flatMap, headersLength]
  have hrest : c'.rest = c.rest.drop (headersLength es) := by
    rw [r.rest_eq, ← length_headers base es, List.drop_left]
  cases c'
  exact congrArg₂ Cursor.mk hposition hrest

theorem headersLength_le_remaining (r : Reaches c base es last c') :
    headersLength es ≤ c.remaining := by
  rw [Cursor.remaining, r.rest_eq, List.length_append, length_headers]
  exact Nat.le_add_right _ _

end Reaches

variable (c : Cursor)

/-- Where a header is read: behind the last of its extension headers, of which there are at most
six. -/
inductive Reads : Resolved → (k : Nat) → Prop
  | intro {base es last p} : Reaches c base es last (c.advance (headersLength es)) →
      last ∉ extensionTypes → p.chain.protocol = last → p.chain.extensions = es.length →
      Reads p (headersLength es)

/-- Where reading fails: where it began, or behind the base header and the extension headers that
were there. The next one is refused, or one too many, or is cut short. -/
inductive Fails : HeaderError → (k : Nat) → Prop
  | header : c.remaining < 40 → Fails (.truncated "ipv6" 40 c.remaining) 0
  | version : 40 ≤ c.remaining → (byteAt c.rest 0).toNat / 16 ≠ 6 →
      Fails (.malformed .ipv6Version) 40
  | unsupported {base es last} : Reaches c base es last (c.advance (headersLength es)) →
      last ∈ refusedTypes ∨ last ∈ extensionTypes ∧ es.length = 6 →
      Fails (.unsupportedExtension last) (headersLength es)
  | extension {base es last header needed} :
      Reaches c base es last (c.advance (headersLength es)) → es.length < 6 →
      CutShort (c.advance (headersLength es)).rest last header needed →
      Fails (.truncated header needed (c.remaining - headersLength es)) (headersLength es)

theorem stops_read :
    Stops c (fun p k => Reads c p k ∧ k ≤ 40 + 6 * 2048) (Fails c) (read c) := by
  obtain ⟨o, ho⟩ := exists_outcome c
  rw [ho.read_eq]
  cases ho with
  | short hlt => exact .error (Nat.zero_le _) (.header hlt)
  | otherVersion h40 hversion => exact .error h40 (.version h40 hversion)
  | resolved r hext href =>
    obtain rfl := r.eq_advance
    exact .ok r.headersLength_le_remaining
      ⟨.intro r hext rfl rfl, headersLength_le r.length_le⟩
  | unsupported r hlast =>
    obtain rfl := r.eq_advance
    exact .error r.headersLength_le_remaining (.unsupported r hlast)
  | truncated r hlt hcut =>
    obtain rfl := r.eq_advance
    rw [Cursor.remaining_advance]
    exact .error r.headersLength_le_remaining (.extension r hlt hcut)

end Ipv6

/-- **Where each reader leaves the cursor**, at whatever place of whatever frame it begins. With a
header, it has moved by the length of this header. With an error it has not moved back, nor past the
end of the frame: an IPv4 or a UDP header is left where it is, and of the others the parts that were
taken whole have been passed. -/
theorem readers_stop (c : Cursor) :
    Stops c (Ethernet.Reads c) (Ethernet.Fails c) (Ethernet.read c) ∧
      Stops c
        (fun h k => k = h.length ∧ k = 4 * ((byteAt c.rest 0).toNat % 16) ∧ 20 ≤ k ∧ k ≤ 60)
        (Ipv4.Fails c) (Ipv4.read c) ∧
      Stops c (fun p k => Ipv6.Reads c p k ∧ k ≤ 40 + 6 * 2048) (Ipv6.Fails c) (Ipv6.read c) ∧
      Stops c (fun _ k => k = 20) (Tcp.Fails c) (Tcp.read c) ∧
      Stops c (fun _ k => k = 8) (Udp.Fails c) (Udp.read c) :=
  ⟨Ethernet.stops_read c, Ipv4.stops_read c, Ipv6.stops_read c, Tcp.stops_read c,
    Udp.stops_read c⟩

/-- Of the second extension header there is only one half: the first has been passed. -/
example :
    Ipv6.read (.ofFrame ([0x60, 0, 0, 0, 0, 16, 0, 64] ++ List.replicate 32 0 ++
        [60, 0, 0, 0, 0, 0, 0, 0] ++ [6, 1, 0, 0, 0, 0, 0, 0])) =
      .error (.truncated "ipv6 extension" 16 8) ⟨48, [6, 1, 0, 0, 0, 0, 0, 0]⟩ := rfl

end IngressGate
