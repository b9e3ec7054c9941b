import IngressGate.Gate
import IngressGate.Proofs.Decision.Stages
import IngressGate.Proofs.Frame.Ipv6
/-!
# The decision on byte offsets

`Offsets.verdict` states the rules of the gate on the bytes of a frame by their offsets, without
readers, cursors or findings. The gate follows these rules on every frame.
-/
namespace IngressGate

open Bytes Ipv6

namespace Offsets

/-- The bit of a protocol number in a set, none for a number without one. -/
def protocolBit (protocol : UInt8) : UInt8 :=
  if protocol = 6 then 0x01
  else if protocol = 17 then 0x02
  else if protocol = 1 then 0x04
  else if protocol = 58 then 0x08
  else 0

/-- The verdict of a rule. -/
def ruled (queue : UInt32) (allowed : ProtocolSet) (protocol : UInt8) : Verdict :=
  if allowed.bits &&& protocolBit protocol ≠ 0 then .redirect queue else .drop

/-- Whether the TCP or UDP header at offset `h` cannot be used. -/
def noPorts (f : List UInt8) (protocol : UInt8) (h : Nat) : Prop :=
  protocol = 6 ∧ (f.length < h + 20 ∨ (byteAt f (h + 12)).toNat / 16 < 5) ∨
    protocol = 17 ∧ f.length < h + 8

instance (f : List UInt8) (protocol : UInt8) (h : Nat) : Decidable (noPorts f protocol h) :=
  inferInstanceAs (Decidable (_ ∨ _))

/-- The verdict on a packet with payload at offset `h`, given the rule of its source if any. -/
def packet (book : Book) (queue : UInt32) (f : List UInt8) (source : Option ProtocolSet)
    (protocol : UInt8) (h : Nat) (later : Bool) : Verdict :=
  match source with
  | some allowed => ruled queue allowed protocol
  | none =>
    if protocol ≠ 6 ∧ protocol ≠ 17 ∨ later ∨ noPorts f protocol h then .pass
    else
      match book.ports.get? (wordAt f (h + 2)) with
      | some allowed => ruled queue allowed protocol
      | none => .pass

/-- The verdict on the IPv4 packet at offset `o`. -/
def ipv4 (book : Book) (queue : UInt32) (f : List UInt8) (o : Nat) : Verdict :=
  let version := (byteAt f o).toNat / 16
  let words := (byteAt f o).toNat % 16
  if f.length < o + 20 ∨ version ≠ 4 ∨ words < 5 ∨ f.length < o + 4 * words then .pass
  else
    packet book queue f (book.ipv4.get? ⟨fieldAt f (o + 12) 4⟩) (byteAt f (o + 9)) (o + 4 * words)
      ((wordAt f (o + 6)).toNat % 8192 ≠ 0)

/-- Where a chain ends whose next header, of the given type, is at offset `i`: the protocol, the
offset of its payload and whether it belongs to a later fragment. -/
def chain (f : List UInt8) (budget : Nat) (type : UInt8) (i : Nat) (later : Bool) :
    Option (UInt8 × Nat × Bool) :=
  if type ∈ extensionTypes then
    match budget with
    | 0 => none
    | budget + 1 =>
      let next := i + extensionLength type (byteAt f (i + 1))
      if next ≤ f.length then
        chain f budget (byteAt f i) next
          (later || (type = 44 ∧ (wordAt f (i + 2)).toNat / 8 ≠ 0))
      else none
  else if type ∈ refusedTypes then none
  else some (type, i, later)

/-- The verdict on the IPv6 packet at offset `o`. -/
def ipv6 (book : Book) (queue : UInt32) (f : List UInt8) (o : Nat) : Verdict :=
  if f.length < o + 40 ∨ (byteAt f o).toNat / 16 ≠ 6 then .drop
  else
    match chain f 6 (byteAt f (o + 6)) (o + 40) false with
    | none => .drop
    | some (protocol, h, later) =>
      packet book queue f (book.ipv6.get? ⟨fieldAt f (o + 8) 16⟩) protocol h later

/-- The verdict on a payload at offset `o` of the given type. -/
def payload (book : Book) (queue : UInt32) (f : List UInt8) (o : Nat) (etherType : UInt16) :
    Verdict :=
  if etherType = 0x0806 then .redirect queue
  else if etherType = 0x0800 then ipv4 book queue f o
  else if etherType = 0x86DD then ipv6 book queue f o
  else .pass

/-- The verdict on a frame; `queue` is where a redirect goes. -/
def verdict (book : Book) (queue : UInt32) (f : List UInt8) : Verdict :=
  if f.length < 14 then .pass
  else if wordAt f 12 = 0x8100 then
    if f.length < 18 then .pass else payload book queue f 18 (wordAt f 16)
  else payload book queue f 14 (wordAt f 12)

/-! ## The readers in terms of offsets -/

variable {book : Book} {queue : UInt32} {f : List UInt8} {c : Cursor} {o h : Nat}

theorem remaining_of_drop (hc : c.rest = f.drop o) : c.remaining = f.length - o := by
  rw [Cursor.remaining, hc, List.length_drop]

theorem verdict_apply (flow : Flow) (rule : Match) (queue : UInt32) (allowed : ProtocolSet) :
    (Decision.apply flow rule queue allowed).verdict = ruled queue allowed flow.protocol := by
  have hbit : (ProtocolSet.ofProtocol flow.protocol).bits = protocolBit flow.protocol := by
    simp only [ProtocolSet.ofProtocol, protocolBit, apply_ite ProtocolSet.bits]
    rfl
  simp only [Decision.verdict_apply, ProtocolSet.permits_iff, hbit, ruled]

theorem verdict_decideByPort {flow : Flow} (hp : flow.protocol = 6 ∨ flow.protocol = 17)
    (hc : c.rest = f.drop h) :
    (Decision.decideByPort book.get? queue flow c).verdict =
      if noPorts f flow.protocol h then .pass
      else
        match book.ports.get? (wordAt f (h + 2)) with
        | some allowed => ruled queue allowed flow.protocol
        | none => .pass := by
  have hread := Decision.readPorts_eq flow.protocol c
  simp only [remaining_of_drop hc, hc, byteAt_drop, wordAt_drop] at hread
  by_cases hno : noPorts f flow.protocol h
  · obtain ⟨e, c', he⟩ : ∃ e c', Decision.readPorts flow.protocol c = .error e c' := by
      rw [hread]
      rcases hno with ⟨hp6, hshort | hoffset⟩ | ⟨hp17, hshort⟩
      · exact ⟨_, _, by rw [if_pos hp6, if_pos (by omega)]⟩
      · by_cases hlt : f.length - h < 20
        · exact ⟨_, _, by rw [if_pos hp6, if_pos hlt]⟩
        · exact ⟨_, _, by rw [if_pos hp6, if_neg hlt, if_pos hoffset]⟩
      · exact ⟨_, _, by rw [if_neg (by simp [hp17]), if_pos (by omega)]⟩
    rw [Decision.decideByPort, he, if_pos hno]
    rfl
  · obtain ⟨c', hok⟩ : ∃ c', Decision.readPorts flow.protocol c =
        .ok (wordAt f h, wordAt f (h + 2)) c' := by
      rw [hread]
      simp only [noPorts, not_or, not_and] at hno
      rcases hp with hp6 | hp17
      · obtain ⟨hshort, hoffset⟩ := hno.1 hp6
        exact ⟨_, by rw [if_pos hp6, if_neg (by omega), if_neg hoffset]; rfl⟩
      · have hshort := hno.2 hp17
        exact ⟨_, by rw [if_neg (by simp [hp17]), if_neg (by omega)]; rfl⟩
    rw [Decision.decideByPort, hok, if_neg hno]
    simp only [Book.get?]
    cases book.ports.get? (wordAt f (h + 2)) with
    | some allowed => exact verdict_apply _ _ _ _
    | none => rfl

theorem verdict_decidePacket (flow : Flow) (later : Bool) (hc : c.rest = f.drop h) :
    (Decision.decidePacket book.get? queue flow later c).verdict =
      packet book queue f (book.get? flow.endpoints.sourceKey) flow.protocol h later := by
  cases hsource : book.get? flow.endpoints.sourceKey with
  | some allowed =>
    rw [Decision.decidePacket_of_rule hsource]
    exact verdict_apply flow .source queue allowed
  | none =>
    by_cases hp : flow.protocol = 6 ∨ flow.protocol = 17
    · have hports : ¬ (flow.protocol ≠ 6 ∧ flow.protocol ≠ 17) := by tauto
      cases later with
      | true =>
        rw [Decision.decidePacket_of_later hsource hp]
        simp [packet, Finding.verdict]
      | false =>
        rw [Decision.decidePacket_of_ports hsource hp, verdict_decideByPort hp hc]
        simp [packet, hports]
    · have hports : flow.protocol ≠ 6 ∧ flow.protocol ≠ 17 := by tauto
      rw [Decision.decidePacket_of_noPorts hsource hp]
      simp [packet, hports, Finding.verdict]

theorem verdict_decideIpv4 (hc : c.rest = f.drop o) :
    (Decision.decideIpv4 book.get? queue c).verdict = ipv4 book queue f o := by
  have hread := Ipv4.read_eq c
  simp only [remaining_of_drop hc, hc, byteAt_drop, Nat.add_zero] at hread
  by_cases hshort : f.length < o + 20
  · rw [if_pos (by omega)] at hread
    simp [Decision.decideIpv4, hread, ipv4, hshort, Finding.verdict]
  rw [if_neg (by omega)] at hread
  by_cases hversion : (byteAt f o).toNat / 16 ≠ 4
  · rw [if_pos hversion] at hread
    simp [Decision.decideIpv4, hread, ipv4, hversion, Finding.verdict]
  rw [if_neg hversion] at hread
  by_cases hwords : (byteAt f o).toNat % 16 < 5
  · rw [if_pos hwords] at hread
    simp [Decision.decideIpv4, hread, ipv4, hwords, Finding.verdict]
  rw [if_neg hwords] at hread
  by_cases hlength : f.length < o + 4 * ((byteAt f o).toNat % 16)
  · rw [if_pos (by omega)] at hread
    simp [Decision.decideIpv4, hread, ipv4, hlength, Finding.verdict]
  rw [if_neg (by omega)] at hread
  have hrest : (c.advance (4 * ((byteAt f o).toNat % 16))).rest =
      f.drop (o + 4 * ((byteAt f o).toNat % 16)) := by simp [hc]
  have hoptions : ¬ (f.length < o + 20 ∨ (byteAt f o).toNat / 16 ≠ 4 ∨
      (byteAt f o).toNat % 16 < 5 ∨ f.length < o + 4 * ((byteAt f o).toNat % 16)) := by tauto
  simp only [Decision.decideIpv4, hread, ipv4, if_neg hoptions]
  rw [verdict_decidePacket _ _ hrest, Ipv4.isLaterFragment_ofBytes, wordAt_drop]
  simp [Endpoints.sourceKey, Book.get?, Ipv4.Header.ofBytes]

/-! ## Chains -/

variable {budget : Nat} {type : UInt8} {later : Bool}

theorem chain_of_upperLayer (hext : type ∉ extensionTypes) (href : type ∉ refusedTypes) :
    chain f budget type o later = some (type, o, later) := by
  rw [chain.eq_def, if_neg hext, if_neg href]

theorem chain_of_refused (hext : type ∉ extensionTypes) (href : type ∈ refusedTypes) :
    chain f budget type o later = none := by
  rw [chain.eq_def, if_neg hext, if_pos href]

theorem chain_zero (hext : type ∈ extensionTypes) : chain f 0 type o later = none := by
  rw [chain.eq_def, if_pos hext]

theorem chain_cutShort {header : String} {needed : Nat}
    (h : CutShort (f.drop o) type header needed) :
    chain f (budget + 1) type o later = none := by
  have hlt := h.length_lt
  rw [byteAt_drop, List.length_drop] at hlt
  have h8 := eight_le_extensionLength type (byteAt f (o + 1))
  rw [chain.eq_def, if_pos h.mem_types]
  exact if_neg (by omega)

theorem chain_append {e : Extension} {rest : List UInt8} (h : f.drop o = e.bytes ++ rest) :
    chain f (budget + 1) e.type o later =
      chain f budget e.next (o + e.bytes.length) (later || e.isLaterFragment) := by
  have h8 := e.eight_le_length
  have hfirst : byteAt f o = e.next := by
    rw [Extension.next, ← byteAt_append_left (x := rest) (show 0 < e.bytes.length by omega), ← h,
      byteAt_drop, Nat.add_zero]
  have hlength : extensionLength e.type (byteAt f (o + 1)) = e.bytes.length := by
    rw [e.length_eq, ← byteAt_append_left (x := rest) (show 1 < e.bytes.length by omega), ← h,
      byteAt_drop]
  have hoffset : wordAt f (o + 2) = wordAt e.bytes 2 := by
    rw [← wordAt_append_left (x := rest) (show 2 + 1 < e.bytes.length by omega), ← h,
      wordAt_drop]
  have hfits : o + e.bytes.length ≤ f.length := by
    have hsum := congrArg List.length h
    rw [List.length_drop, List.length_append] at hsum
    omega
  rw [chain.eq_def, if_pos e.mem_types]
  simp only [hlength, hfirst, hoffset, if_pos hfits]
  rfl

/-- A walk on cursors is a walk on offsets. -/
theorem chain_eq_of_walk {es : List Extension} {last : UInt8} {c' : Cursor}
    (w : Walk budget type c es last c') (hc : c.rest = f.drop o) (later : Bool) :
    chain f budget type o later =
      chain f (budget - es.length) last (o + (bytesOf es).length)
        (later || es.any (·.isLaterFragment)) := by
  obtain ⟨hrest, -, hlinked, hlength⟩ := w
  rw [hc] at hrest
  clear hc
  induction es generalizing budget type o later with
  | nil =>
    simp only [Linked] at hlinked
    simp [hlinked]
  | cons e es ih =>
    obtain ⟨rfl, htail⟩ := hlinked
    obtain ⟨budget, rfl⟩ : ∃ b, budget = b + 1 := ⟨budget - 1, by simp at hlength; omega⟩
    rw [bytesOf_cons, List.append_assoc] at hrest
    have hnext : f.drop (o + e.bytes.length) = bytesOf es ++ c'.rest := by
      rw [← List.drop_drop, hrest, List.drop_left]
    rw [chain_append hrest, ih _ hnext htail (by simpa using hlength)]
    simp [Nat.add_assoc, Bool.or_assoc]

/-- The reader of chains ends where the offsets say, or fails where they give nothing. -/
theorem chain_eq (budget : Nat) (type : UInt8) (seen : Chain) (hc : c.rest = f.drop o) :
    (∃ p c' h, Chain.read budget type seen c = .ok p c' ∧ c'.rest = f.drop h ∧
      chain f budget type o seen.laterFragment = some (p.protocol, h, p.laterFragment)) ∨
    (∃ e c', Chain.read budget type seen c = .error e c' ∧
      chain f budget type o seen.laterFragment = none) := by
  obtain ⟨es, last, c', w, hend⟩ := exists_walk budget type c
  have hchain := chain_eq_of_walk w hc seen.laterFragment
  have hrest : c'.rest = f.drop (o + (bytesOf es).length) := by
    rw [← List.drop_drop, ← hc, w.rest_eq, List.drop_left]
  by_cases hext : last ∈ extensionTypes
  · refine .inr ?_
    rcases Nat.lt_or_eq_of_le w.length_le with hlt | hfull
    · obtain ⟨header, needed, hcut⟩ := hend hext hlt
      refine ⟨_, _, w.read_truncated hlt hcut, ?_⟩
      obtain ⟨left, hleft⟩ : ∃ left, budget - es.length = left + 1 :=
        ⟨budget - es.length - 1, by omega⟩
      rw [hchain, hleft]
      exact chain_cutShort (hrest ▸ hcut)
    · refine ⟨_, _, w.read_unsupported (.inr ⟨hext, hfull⟩), ?_⟩
      rw [hchain, hfull, Nat.sub_self, chain_zero hext]
  · by_cases href : last ∈ refusedTypes
    · exact .inr ⟨_, _, w.read_unsupported (.inl href), by rw [hchain, chain_of_refused hext href]⟩
    · exact .inl ⟨_, _, _, w.read_ok hext href, hrest,
        by rw [hchain, chain_of_upperLayer hext href]⟩

theorem verdict_decideIpv6 (hc : c.rest = f.drop o) :
    (Decision.decideIpv6 book.get? queue c).verdict = ipv6 book queue f o := by
  have hremaining := remaining_of_drop hc
  by_cases hshort : f.length < o + 40
  · have hread := read_of_lt (c := c) (by omega)
    simp [Decision.decideIpv6, hread, ipv6, hshort, Finding.verdict]
  have h40 : 40 ≤ c.remaining := by omega
  have hbyte : ∀ i, byteAt c.rest i = byteAt f (o + i) := fun i => by rw [hc, byteAt_drop]
  by_cases hversion : (byteAt f o).toNat / 16 = 6
  · have hread := read_of_version h40 (by rw [hbyte, Nat.add_zero, hversion])
    rw [hbyte] at hread
    have hheader : ¬ (f.length < o + 40 ∨ (byteAt f o).toNat / 16 ≠ 6) := by tauto
    have hnext : (c.advance 40).rest = f.drop (o + 40) := by simp [hc]
    rw [ipv6, if_neg hheader]
    rcases chain_eq 6 (byteAt f (o + 6)) ⟨byteAt f (o + 6), 0, false⟩ hnext with
      ⟨p, c', h, hok, hrest, hchain⟩ | ⟨e, c', herror, hchain⟩
    · rw [Reader.bind_of_ok hok, Reader.pure_apply] at hread
      have hsource : (Header.ofFixed (c.front 40 h40)).source = ⟨fieldAt f (o + 8) 16⟩ := by
        simp [Header.ofFixed, Cursor.slice_front, hc]
      simp only [Decision.decideIpv6, hread, hchain]
      rw [verdict_decidePacket _ _ hrest]
      simp [Endpoints.sourceKey, Book.get?, hsource]
    · rw [Reader.bind_of_error herror] at hread
      simp [Decision.decideIpv6, hread, hchain, Finding.verdict]
  · have hread := read_of_otherVersion h40 (by rw [hbyte, Nat.add_zero]; exact hversion)
    simp [Decision.decideIpv6, hread, ipv6, hversion, Finding.verdict]

theorem verdict_payload {etherType : UInt16} (hc : c.rest = f.drop o) :
    (match EtherType.ofCode? etherType with
      | some .arp => Finding.arp queue
      | some .ipv4 => Decision.decideIpv4 book.get? queue c
      | some .ipv6 => Decision.decideIpv6 book.get? queue c
      | _ => .otherType etherType).verdict = payload book queue f o etherType := by
  by_cases h4 : etherType = 0x0800
  · subst h4
    exact verdict_decideIpv4 hc
  by_cases ha : etherType = 0x0806
  · subst ha
    rfl
  by_cases hv : etherType = 0x8100
  · subst hv
    rfl
  by_cases h6 : etherType = 0x86DD
  · subst h6
    exact verdict_decideIpv6 hc
  · simp [EtherType.ofCode?, payload, h4, ha, hv, h6, Finding.verdict]

theorem verdict_decideFrame (book : Book) (queue : UInt32) (f : List UInt8) :
    (decideFrame book.get? queue f).verdict = verdict book queue f := by
  have hread := Ethernet.read_eq (.ofFrame f)
  have hrest : (Cursor.ofFrame f).rest = f := rfl
  have hremaining : (Cursor.ofFrame f).remaining = f.length := rfl
  rw [hrest, hremaining] at hread
  by_cases h14 : f.length < 14
  · rw [if_pos h14] at hread
    simp [decideFrame, hread, verdict, h14, Finding.verdict]
  rw [if_neg h14] at hread
  by_cases htag : wordAt f 12 = 0x8100
  · rw [if_pos htag] at hread
    by_cases h18 : f.length < 18
    · rw [if_pos h18] at hread
      simp [decideFrame, hread, verdict, htag, h18, Finding.verdict]
    · rw [if_neg h18] at hread
      simp only [decideFrame, hread, verdict, if_neg h14, if_pos htag, if_neg h18]
      exact verdict_payload rfl
  · rw [if_neg htag] at hread
    simp only [decideFrame, hread, verdict, if_neg h14, if_neg htag]
    exact verdict_payload rfl

/-- **The gate follows the rules on byte offsets**, whatever its rule book, its mode, the frame and
the queue on which the frame arrived. -/
theorem verdict_classify (g : Gate) (f : List UInt8) (arrivalQueue : UInt32) :
    (g.classify f arrivalQueue).1 =
      verdict g.book (match g.mode with | .fixed q => q | .arrival => arrivalQueue) f :=
  verdict_decideFrame g.book _ f

end Offsets

end IngressGate
