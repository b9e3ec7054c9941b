import IngressGate.Gate
import IngressGate.Proofs.Decision.Stages
import IngressGate.Proofs.Frame.Ipv6
/-!
# What follows the header of a later fragment

A fragment that is not the first one has no headers behind the one that marks it: what follows is a
piece of some payload. `EndsMarked` describes the frames that end with such a marker, and the main
statement says for which markers nothing behind them can change a verdict. IPv4 markers are always
of this kind. An IPv6 marker is, unless it announces one more extension header that would still be
read.
-/
namespace IngressGate

open Ipv6

/-- The header that marks a frame as a later fragment: an IPv4 header, or a Fragment header behind
`place` other extension headers that announces a header of type `next`. -/
inductive Marker
  | ipv4
  | ipv6 (place : Nat) (next : UInt8)
  deriving DecidableEq, Repr

/-- No header is read behind the marker as a part of its chain. -/
def Marker.EndsChain : Marker → Prop
  | ipv4 => True
  | ipv6 place next => next ∉ extensionTypes ∨ place = 5

/-- The bytes `f` are the start of a frame up to the end of the header that marks it as a later
fragment; in IPv6 that is the first such header of the chain. -/
inductive EndsMarked (f : List UInt8) : Marker → Prop
  | ipv4 {h c ip c'} : Ethernet.read (.ofFrame f) = .ok h c → h.etherType = 0x0800 →
      Ipv4.read c = .ok ip c' → ip.isLaterFragment = true → c'.rest = [] → EndsMarked f .ipv4
  | ipv6 {h c base es e c'} : Ethernet.read (.ofFrame f) = .ok h c → h.etherType = 0x86DD →
      Reaches c base (es ++ [e]) e.next c' → (∀ e' ∈ es, e'.isLaterFragment = false) →
      e.isLaterFragment = true → c'.rest = [] → EndsMarked f (.ipv6 es.length e.next)

theorem Book.get?_empty (k : Key) : Book.empty.get? k = none := by
  cases k with
  | address a => cases a <;> rfl
  | port p => rfl

namespace Decision
variable {rules : Rules} {queue : UInt32} {f : List UInt8}

theorem decideFrame_append_ipv4 {h : Ethernet.Header} {c : Cursor}
    (hread : Ethernet.read (.ofFrame f) = .ok h c) (htype : h.etherType = 0x0800)
    (x : List UInt8) :
    decideFrame rules queue (f ++ x) = decideIpv4 rules queue (c.extend x) := by
  have happend := Ethernet.stable_read.ok hread x
  rw [Cursor.extend_ofFrame] at happend
  simp only [decideFrame, happend, htype]
  rfl

theorem decideFrame_append_ipv6 {h : Ethernet.Header} {c : Cursor}
    (hread : Ethernet.read (.ofFrame f) = .ok h c) (htype : h.etherType = 0x86DD)
    (x : List UInt8) :
    decideFrame rules queue (f ++ x) = decideIpv6 rules queue (c.extend x) := by
  have happend := Ethernet.stable_read.ok hread x
  rw [Cursor.extend_ofFrame] at happend
  simp only [decideFrame, happend, htype]
  rfl

/-! ## Markers that end the chain -/

theorem decideIpv4_extend_congr {c c' : Cursor} {ip : Ipv4.Header}
    (hread : Ipv4.read c = .ok ip c') (hlater : ip.isLaterFragment = true) (x y : List UInt8) :
    decideIpv4 rules queue (c.extend x) = decideIpv4 rules queue (c.extend y) := by
  have hx := Ipv4.stable_read.ok hread x
  have hy := Ipv4.stable_read.ok hread y
  simp only [decideIpv4, hx, hy, hlater]
  exact decidePacket_later_congr _ _

variable {c c' : Cursor} {base : Vector UInt8 40} {es : List Extension} {last : UInt8}

theorem decideIpv6_of_unsupported (r : Reaches c base es last c')
    (h : last ∈ refusedTypes ∨ last ∈ extensionTypes ∧ es.length = 6) :
    decideIpv6 rules queue c = .unreadableIpv6 (.unsupportedExtension last) := by
  rw [decideIpv6, (Outcome.unsupported r h).read_eq]

theorem decideIpv6_of_resolved (r : Reaches c base es last c') (hext : last ∉ extensionTypes)
    (href : last ∉ refusedTypes) :
    decideIpv6 rules queue c =
      decidePacket rules queue
        { endpoints := .v6 (Header.ofFixed base).source (Header.ofFixed base).destination
          protocol := last }
        (es.any (·.isLaterFragment)) c' := by
  rw [decideIpv6, (Outcome.resolved r hext href).read_eq]

/-- A chain that has ended is not read on, and the payload of a later fragment is not read. -/
theorem decideIpv6_extend_congr (r : Reaches c base es last c')
    (hend : last ∉ extensionTypes ∨ es.length = 6) (hlater : es.any (·.isLaterFragment) = true)
    (x y : List UInt8) :
    decideIpv6 rules queue (c.extend x) = decideIpv6 rules queue (c.extend y) := by
  by_cases hext : last ∈ extensionTypes
  · have hmany : last ∈ extensionTypes ∧ es.length = 6 :=
      ⟨hext, hend.resolve_left (not_not.mpr hext)⟩
    rw [decideIpv6_of_unsupported (r.extend x) (.inr hmany),
      decideIpv6_of_unsupported (r.extend y) (.inr hmany)]
  · by_cases href : last ∈ refusedTypes
    · rw [decideIpv6_of_unsupported (r.extend x) (.inl href),
        decideIpv6_of_unsupported (r.extend y) (.inl href)]
    · rw [decideIpv6_of_resolved (r.extend x) hext href,
        decideIpv6_of_resolved (r.extend y) hext href, hlater]
      exact decidePacket_later_congr _ _

/-! ## Markers that do not end the chain -/

theorem decideIpv6_of_nil (r : Reaches c base es last c') (hlt : es.length < 6)
    (hext : last ∈ extensionTypes) (hnil : c'.rest = []) :
    (decideIpv6 rules queue c).verdict = .drop := by
  obtain ⟨header, needed, hcut⟩ := cutShort_nil hext
  rw [decideIpv6, (Outcome.truncated r hlt (hnil ▸ hcut)).read_eq]
  rfl

/-- A short extension header behind which there is nothing. -/
def closing (type : UInt8) (ht : type ∈ extensionTypes) : Extension where
  type := type
  bytes := [59, 0, 0, 0, 0, 0, 0, 0]
  mem_types := ht
  length_eq := by
    simp only [extensionTypes, List.mem_cons, List.not_mem_nil, or_false] at ht
    rcases ht with rfl | rfl | rfl | rfl | rfl <;> rfl

theorem decideIpv6_of_closing (r : Reaches c base es last c') (hlt : es.length < 6)
    (hext : last ∈ extensionTypes) (hnil : c'.rest = []) (hrules : ∀ k, rules k = none) :
    (decideIpv6 rules queue (c.extend (closing last hext).bytes)).verdict = .pass := by
  have hrest : (c'.extend (closing last hext).bytes).rest = (closing last hext).bytes ++ [] := by
    simp [hnil]
  have hclosed := Reaches.snoc (e := closing last hext) (r.extend _) hlt hrest
  have hnext : (closing last hext).next = 59 := rfl
  rw [hnext] at hclosed
  have hports : ¬ ((59 : UInt8) = 6 ∨ (59 : UInt8) = 17) := by decide
  rw [decideIpv6_of_resolved hclosed (by decide) (by decide),
    decidePacket_of_noPorts (hrules _) hports]
  rfl

end Decision

/-! ## The influence of a payload -/

namespace EndsMarked
variable {f : List UInt8} {m : Marker}

/-- Behind a marker that ends the chain, everything is decided. -/
theorem decideFrame_congr (h : EndsMarked f m) (hend : m.EndsChain) (rules : Rules)
    (queue : UInt32) (x y : List UInt8) :
    decideFrame rules queue (f ++ x) = decideFrame rules queue (f ++ y) := by
  cases h with
  | ipv4 hread htype hip hlater _ =>
    rw [Decision.decideFrame_append_ipv4 hread htype, Decision.decideFrame_append_ipv4 hread htype]
    exact Decision.decideIpv4_extend_congr hip hlater x y
  | @ipv6 _ _ _ es e _ hread htype r _ hlater _ =>
    have hlength : (es ++ [e]).length = es.length + 1 := by simp
    have hplace : e.next ∉ extensionTypes ∨ (es ++ [e]).length = 6 :=
      hend.imp_right fun hfive => by omega
    rw [Decision.decideFrame_append_ipv6 hread htype, Decision.decideFrame_append_ipv6 hread htype]
    exact Decision.decideIpv6_extend_congr r hplace (by simp [hlater]) x y

/-- Behind any other marker, the payload may complete the chain or fail to. -/
theorem exists_drop_pass (h : EndsMarked f m) (hend : ¬ m.EndsChain) :
    ∃ x y, (({} : Gate).classify (f ++ x) 0).1 = .drop ∧
      (({} : Gate).classify (f ++ y) 0).1 = .pass := by
  cases h with
  | ipv4 => exact absurd trivial hend
  | @ipv6 _ _ _ es e _ hread htype r _ _ hnil =>
    obtain ⟨hnot, hplace⟩ := not_or.mp hend
    have hext : e.next ∈ extensionTypes := not_not.mp hnot
    have hlength : (es ++ [e]).length = es.length + 1 := by simp
    have hlt : (es ++ [e]).length < 6 := by
      have hle := r.length_le
      omega
    refine ⟨[], (Decision.closing e.next hext).bytes, ?_, ?_⟩
    · rw [Gate.classify, Gate.decide, Decision.decideFrame_append_ipv6 hread htype]
      exact Decision.decideIpv6_of_nil (r.extend []) hlt hext (by simp [hnil])
    · rw [Gate.classify, Gate.decide, Decision.decideFrame_append_ipv6 hread htype]
      exact Decision.decideIpv6_of_closing r hlt hext hnil Book.get?_empty

end EndsMarked

/-- **Nothing behind its marker changes the verdict on a later fragment, exactly if the marker ends
the chain.** An IPv6 marker that announces another extension header, and has fewer than five
headers before it, makes the gate read the payload of the fragment as that header. -/
theorem verdict_indep_payload_iff {f : List UInt8} {m : Marker} (h : EndsMarked f m) :
    (∀ (g : Gate) (queue : UInt32) (x y : List UInt8),
      (g.classify (f ++ x) queue).1 = (g.classify (f ++ y) queue).1) ↔ m.EndsChain := by
  constructor
  · intro hsame
    by_contra hend
    obtain ⟨x, y, hdrop, hpass⟩ := h.exists_drop_pass hend
    have hverdicts := hsame {} 0 x y
    rw [hdrop, hpass] at hverdicts
    cases hverdicts
  · intro hend g queue x y
    exact congrArg Finding.verdict (h.decideFrame_congr hend g.book.get? (g.mode.queue queue) x y)

/-- A frame that ends with a marker: an Ethernet header, an IPv6 header and a Fragment header of
offset one that announces a header of type `next`. -/
def laterFragment (next : UInt8) : List UInt8 :=
  List.replicate 12 0 ++ [0x86, 0xDD] ++
    ([0x60, 0, 0, 0, 0, 16, 44, 64] ++ List.replicate 32 0) ++ [next, 0, 0, 8, 0, 0, 0, 1]

theorem endsMarked_laterFragment (next : UInt8) :
    EndsMarked (laterFragment next) (.ipv6 0 next) := by
  let base : Vector UInt8 40 := ⟨⟨((laterFragment next).drop 14).take 40⟩, rfl⟩
  let e : Extension := ⟨44, [next, 0, 0, 8, 0, 0, 0, 1], by decide, rfl⟩
  have r : Reaches ⟨14, (laterFragment next).drop 14⟩ base ([] ++ [e]) e.next ⟨62, []⟩ :=
    ⟨rfl, rfl, show (0x60 : UInt8).toNat / 16 = 6 by decide, ⟨rfl, rfl⟩, by simp⟩
  have hoffset : (Bytes.wordAt e.bytes 2).toNat / 8 ≠ 0 :=
    show (Bytes.u16 0 8).toNat / 8 ≠ 0 by decide
  have hlater : e.isLaterFragment = true := decide_eq_true ⟨rfl, hoffset⟩
  exact .ipv6 rfl rfl r (by simp) hlater rfl

/-- Two fragments that differ in their payload only, and in what becomes of them. -/
theorem verdict_laterFragment_ne :
    EndsMarked (laterFragment 60) (.ipv6 0 60) ∧
      (({} : Gate).classify (laterFragment 60 ++ [135, 0, 0, 0, 0, 0, 0, 0]) 0).1 = .drop ∧
      (({} : Gate).classify (laterFragment 60 ++ [59, 0, 0, 0, 0, 0, 0, 0]) 0).1 = .pass :=
  ⟨endsMarked_laterFragment 60, by decide, by decide⟩

/-- The payload of a fragment of a UDP packet is not looked at. -/
theorem verdict_indep_payload_udp :
    EndsMarked (laterFragment 17) (.ipv6 0 17) ∧
      ∀ (g : Gate) (queue : UInt32) (x y : List UInt8),
        (g.classify (laterFragment 17 ++ x) queue).1 =
          (g.classify (laterFragment 17 ++ y) queue).1 :=
  ⟨endsMarked_laterFragment 17,
    (verdict_indep_payload_iff (endsMarked_laterFragment 17)).mpr (.inl (by decide))⟩

end IngressGate
