import IngressGate.Gate
import IngressGate.Proofs.Decision.Course
/-!
# Frames that are cut short

What becomes of a frame of which only the first bytes are there, such as one that did not fit into
its receive buffer. Either no header that is needed is cut, and everything about the frame is
decided as if it were whole; or one is, and the frame meets the fallback of that header's layer. A
cut frame is therefore never redirected unless the whole frame is, and to the same queue.
-/
namespace IngressGate

open Decision

/-- No header was found to be cut short. -/
def Finding.IsWhole (x : Finding) : Prop := ∀ e, x.error? = some e → Reader.isShortage e = false

variable {rules : Rules} {queue : UInt32} {f : List UInt8} {flow : Flow} {later : Bool}
  {c : Cursor} {x : Finding} {n : Nat} {layer : Layer} {e : HeaderError}

/-! ## Longer frames -/

theorem Carries.extend {t : UInt16} (h : Carries f t c) (y : List UInt8) :
    Carries (f ++ y) t (c.extend y) := by
  obtain ⟨h, hread, htype⟩ := h
  exact ⟨h, Ethernet.stable_read.ok hread y, htype⟩

theorem CarriesPacket.extend (h : CarriesPacket f flow later c) (y : List UInt8) :
    CarriesPacket (f ++ y) flow later (c.extend y) := by
  cases h with
  | ipv4 hc hread => exact .ipv4 (hc.extend y) (Ipv4.stable_read.ok hread y)
  | ipv6 hc hread => exact .ipv6 (hc.extend y) (Ipv6.stable_read.ok hread y)

theorem NeedsPorts.extend (h : NeedsPorts rules f flow c) (y : List UInt8) :
    NeedsPorts rules (f ++ y) flow (c.extend y) :=
  ⟨h.packet.extend y, h.noRule, h.hasPorts⟩

/-- A decision that finds no header cut short takes the same course on every longer frame. -/
theorem Course.extend (h : Course rules queue f x n) (hx : x.IsWhole) (y : List UInt8) :
    Course rules queue (f ++ y) x n := by
  -- The offset of a cursor in the frame is also that of the cursor in the longer frame.
  cases h with
  | ethernet hread =>
    rw [← Cursor.position_extend _ y]
    exact .ethernet (Ethernet.stable_read.error hread (hx _ rfl) y)
  | arp hc =>
    rw [← Cursor.position_extend _ y]
    exact .arp (hc.extend y)
  | otherType hc h4 ha h6 =>
    rw [← Cursor.position_extend _ y]
    exact .otherType (hc.extend y) h4 ha h6
  | ipv4 hc hread =>
    rw [← Cursor.position_extend _ y]
    exact .ipv4 (hc.extend y) (Ipv4.stable_read.error hread (hx _ rfl) y)
  | ipv6 hc hread =>
    rw [← Cursor.position_extend _ y]
    exact .ipv6 (hc.extend y) (Ipv6.stable_read.error hread (hx _ rfl) y)
  | source hp hrule =>
    rw [← Cursor.position_extend _ y]
    exact .source (hp.extend y) hrule
  | noPorts hp hrule hports =>
    rw [← Cursor.position_extend _ y]
    exact .noPorts (hp.extend y) hrule hports
  | later hp hrule hports =>
    rw [← Cursor.position_extend _ y]
    exact .later (hp.extend y) hrule hports
  | transport hn hread =>
    rw [← Cursor.position_extend _ y]
    exact .transport (hn.extend y) ((stable_readPorts _).error hread (hx _ rfl) y)
  | port hn hread hrule =>
    rw [← Cursor.position_extend _ y]
    exact .port (hn.extend y) ((stable_readPorts _).ok hread y) hrule
  | unmatched hn hread hrule =>
    rw [← Cursor.position_extend _ y]
    exact .unmatched (hn.extend y) ((stable_readPorts _).ok hread y) hrule

/-! ## Shorter frames -/

theorem Carries.of_extend {t : UInt16} {y : List UInt8} (h : Carries (f ++ y) t c)
    (hle : c.position ≤ f.length) : ∃ d, Carries f t d ∧ d.extend y = c ∧ d.stop = f.length := by
  obtain ⟨h, hread, htype⟩ := h
  have hstop : c.position ≤ (Cursor.ofFrame f).stop := by rwa [Cursor.stop_ofFrame]
  obtain ⟨d, hd, hextend⟩ :=
    Ethernet.frugal_read.ok_of_extend (c := .ofFrame f) (x := y) hread hstop
  exact ⟨d, ⟨h, hd, htype⟩, hextend, (Ethernet.frugal_read.ok hd).2.trans (Cursor.stop_ofFrame f)⟩

theorem CarriesPacket.of_extend {y : List UInt8} (h : CarriesPacket (f ++ y) flow later c)
    (hle : c.position ≤ f.length) :
    ∃ d, CarriesPacket f flow later d ∧ d.extend y = c ∧ d.stop = f.length := by
  cases h with
  | ipv4 hc hread =>
    have hmid := Nat.le_trans (Ipv4.advances_read.ok hread).1 hle
    obtain ⟨d, hd, rfl, hstop⟩ := hc.of_extend hmid
    obtain ⟨d', hd', hextend⟩ := Ipv4.read_ok_of_extend hread (hstop ▸ hle)
    exact ⟨d', .ipv4 hd hd', hextend, (Ipv4.advances_read.ok hd').2.trans hstop⟩
  | ipv6 hc hread =>
    have hmid := Nat.le_trans (Ipv6.frugal_read.ok hread).1 hle
    obtain ⟨d, hd, rfl, hstop⟩ := hc.of_extend hmid
    obtain ⟨d', hd', hextend⟩ := Ipv6.frugal_read.ok_of_extend hread (hstop ▸ hle)
    exact ⟨d', .ipv6 hd hd', hextend, (Ipv6.frugal_read.ok hd').2.trans hstop⟩

theorem NeedsPorts.of_extend {y : List UInt8} (h : NeedsPorts rules (f ++ y) flow c)
    (hle : c.position ≤ f.length) :
    ∃ d, NeedsPorts rules f flow d ∧ d.extend y = c ∧ d.stop = f.length := by
  obtain ⟨d, hd, hextend, hstop⟩ := h.packet.of_extend hle
  exact ⟨d, ⟨hd, h.noRule, h.hasPorts⟩, hextend, hstop⟩

/-- A decision that finds no header cut short takes the same course on a part of the frame that goes
up to where it looks. -/
theorem Course.of_extend {y : List UInt8} (h : Course rules queue (f ++ y) x n) (hx : x.IsWhole)
    (hle : n ≤ f.length) : Course rules queue f x n := by
  -- Every header ends at or before `n`, so each cursor of the longer frame is one of `f`, extended.
  cases h with
  | ethernet hread =>
    have hstop := (Cursor.stop_ofFrame f).symm ▸ hle
    obtain ⟨d, hd, rfl⟩ :=
      Ethernet.frugal_read.error_of_extend (c := .ofFrame f) (x := y) hread (hx _ rfl) hstop
    rw [Cursor.position_extend]
    exact .ethernet hd
  | arp hc =>
    obtain ⟨d, hd, rfl, -⟩ := hc.of_extend hle
    rw [Cursor.position_extend]
    exact .arp hd
  | otherType hc h4 ha h6 =>
    obtain ⟨d, hd, rfl, -⟩ := hc.of_extend hle
    rw [Cursor.position_extend]
    exact .otherType hd h4 ha h6
  | ipv4 hc hread =>
    obtain ⟨d, hd, rfl, hstop⟩ := hc.of_extend (Nat.le_trans (Nat.le_add_right _ 20) hle)
    obtain ⟨d', hd', -⟩ := Ipv4.read_error_of_extend hread (hx _ rfl) (hstop ▸ hle)
    rw [Cursor.position_extend]
    exact .ipv4 hd hd'
  | ipv6 hc hread =>
    have hmid := Nat.le_trans (Ipv6.frugal_read.error hread) hle
    obtain ⟨d, hd, rfl, hstop⟩ := hc.of_extend hmid
    obtain ⟨d', hd', rfl⟩ := Ipv6.frugal_read.error_of_extend hread (hx _ rfl) (hstop ▸ hle)
    rw [Cursor.position_extend]
    exact .ipv6 hd hd'
  | source hp hrule =>
    obtain ⟨d, hd, rfl, -⟩ := hp.of_extend hle
    rw [Cursor.position_extend]
    exact .source hd hrule
  | noPorts hp hrule hports =>
    obtain ⟨d, hd, rfl, -⟩ := hp.of_extend hle
    rw [Cursor.position_extend]
    exact .noPorts hd hrule hports
  | later hp hrule hports =>
    obtain ⟨d, hd, rfl, -⟩ := hp.of_extend hle
    rw [Cursor.position_extend]
    exact .later hd hrule hports
  | transport hn hread =>
    have hmid := Nat.le_trans ((frugal_readPorts _).error hread) hle
    obtain ⟨d, hd, rfl, hstop⟩ := hn.of_extend hmid
    obtain ⟨d', hd', rfl⟩ :=
      (frugal_readPorts _).error_of_extend hread (hx _ rfl) (hstop ▸ hle)
    rw [Cursor.position_extend]
    exact .transport hd hd'
  | port hn hread hrule =>
    have hmid := Nat.le_trans ((frugal_readPorts _).ok hread).1 hle
    obtain ⟨d, hd, rfl, hstop⟩ := hn.of_extend hmid
    obtain ⟨d', hd', rfl⟩ := (frugal_readPorts _).ok_of_extend hread (hstop ▸ hle)
    rw [Cursor.position_extend]
    exact .port hd hd' hrule
  | unmatched hn hread hrule =>
    have hmid := Nat.le_trans ((frugal_readPorts _).ok hread).1 hle
    obtain ⟨d, hd, rfl, hstop⟩ := hn.of_extend hmid
    obtain ⟨d', hd', rfl⟩ := (frugal_readPorts _).ok_of_extend hread (hstop ▸ hle)
    rw [Cursor.position_extend]
    exact .unmatched hd hd' hrule

/-- The bytes behind the last header that is looked at do not matter. -/
theorem Course.take_append (h : Course rules queue f x n) (hx : x.IsWhole) (y : List UInt8) :
    Course rules queue (f.take n ++ y) x n := by
  refine Course.extend ?_ hx y
  by_cases hn : n ≤ f.length
  · rw [← List.take_append_drop n f] at h
    exact h.of_extend hx (Nat.le_of_eq (List.length_take_of_le hn).symm)
  · rwa [List.take_of_length_le (by omega)]

/-! ## Cuts -/

/-- A header of the given layer is needed and is cut short. -/
def IsCut (rules : Rules) (f : List UInt8) (layer : Layer) : Prop :=
  ∃ header needed remaining, Unreadable rules f layer (.truncated header needed remaining)

theorem IsCut.verdict_decideFrame (h : IsCut rules f layer) :
    (decideFrame rules queue f).verdict = layer.fallback := by
  obtain ⟨header, needed, remaining, hunreadable⟩ := h
  exact (hunreadable.decideFrame_eq queue).2.1

theorem Course.isWhole_iff (h : Course rules queue f x n) :
    x.IsWhole ↔ ∀ layer, ¬ IsCut rules f layer := by
  constructor
  · rintro hx layer ⟨header, needed, remaining, hunreadable⟩
    have herror := (hunreadable.decideFrame_eq queue).1
    rw [h.decideFrame_eq] at herror
    cases hx _ herror
  · intro hcut e he
    obtain ⟨layer, hunreadable⟩ := h.exists_unreadable he
    cases e with
    | truncated header needed remaining => exact absurd ⟨_, _, _, hunreadable⟩ (hcut layer)
    | unsupportedExtension type => rfl
    | malformed flaw => rfl

/-- A frame of which no header is cut is decided like every longer one. -/
theorem decideFrame_append (h : ∀ layer, ¬ IsCut rules f layer) (queue : UInt32)
    (y : List UInt8) :
    decideFrame rules queue (f ++ y) = decideFrame rules queue f := by
  obtain ⟨n, hcourse⟩ := exists_course_decideFrame rules queue f
  exact (hcourse.extend (hcourse.isWhole_iff.mpr h) y).decideFrame_eq

namespace Gate
variable {g : Gate} {f f' : List UInt8} {queue : UInt32}

/-- The classification of a frame looks at its first `n` bytes: the last header that is looked at
ends there. -/
def LooksAt (g : Gate) (f : List UInt8) (queue : UInt32) (n : Nat) : Prop :=
  Course g.book.get? (g.mode.queue queue) f (g.decide f queue) n

theorem classify_congr (h : g.decide f queue = g.decide f' queue) :
    g.classify f queue = g.classify f' queue := by
  simp only [classify, h]

/-- **Cutting a frame never invents a verdict.** If no header that is needed is cut, everything
about the first `n` bytes of a frame is decided as about the whole frame: the verdict, the event,
what is counted. If one is cut, the verdict is the fallback of its layer, which is to pass the
frame, or to drop it for IPv6. Bytes behind the last header do not matter, and a cut frame is
redirected only where the whole frame is. -/
theorem classify_take (g : Gate) (f : List UInt8) (queue : UInt32) (n : Nat) :
    ((∀ layer, ¬ IsCut g.book.get? (f.take n) layer) →
      g.classify (f.take n) queue = g.classify f queue ∧
        (g.decide (f.take n) queue).event = (g.decide f queue).event) ∧
    (∀ layer, IsCut g.book.get? (f.take n) layer →
      (g.classify (f.take n) queue).1 = layer.fallback) ∧
    ((∀ layer, ¬ IsCut g.book.get? f layer) →
      ∃ k, g.LooksAt f queue k ∧ ∀ y, g.classify (f.take k ++ y) queue = g.classify f queue) ∧
    (∀ q, (g.classify (f.take n) queue).1 = .redirect q →
      (g.classify f queue).1 = .redirect q) := by
  have hwhole : (∀ layer, ¬ IsCut g.book.get? (f.take n) layer) →
      g.decide (f.take n) queue = g.decide f queue := fun hcut => by
    have happend := decideFrame_append hcut (g.mode.queue queue) (f.drop n)
    rw [List.take_append_drop] at happend
    exact happend.symm
  refine ⟨fun hcut => ?_, fun layer hcut => hcut.verdict_decideFrame, fun hcut => ?_,
    fun q hredirect => ?_⟩
  · exact ⟨classify_congr (hwhole hcut), congrArg Finding.event (hwhole hcut)⟩
  · obtain ⟨k, hcourse⟩ := exists_course_decideFrame g.book.get? (g.mode.queue queue) f
    refine ⟨k, hcourse, fun y => classify_congr ?_⟩
    exact (hcourse.take_append (hcourse.isWhole_iff.mpr hcut) y).decideFrame_eq
  · by_cases hcut : ∃ layer, IsCut g.book.get? (f.take n) layer
    · obtain ⟨layer, hlayer⟩ := hcut
      have hfallback : (g.classify (f.take n) queue).1 = layer.fallback :=
        hlayer.verdict_decideFrame
      rw [hredirect] at hfallback
      cases layer <;> cases hfallback
    · have hsame := classify_congr (hwhole (not_exists.mp hcut))
      rw [← hsame, hredirect]

end Gate

end IngressGate
