import IngressGate.Proofs.Decision.Explanation
import IngressGate.Proofs.Rule.Undo
/-!
# Rules are local

A decision looks up at most two keys: that of the source of the packet and, if there is no rule for
it, that of the port to which the packet goes. So the change of one rule can change the fate of a
frame only if it is the rule of one of these keys, and a rule that has come is taken back without a
trace.
-/
namespace IngressGate

open Decision

variable {rules rules' : Rules} {queue : UInt32} {f : List UInt8}

/-! ## Keys that are looked up -/

/-- The keys that a decision about the frame looks up: that of the source of the packet in it and,
if there is no rule for the source and the ports are asked for and can be read, that of the
destination port. -/
inductive LooksUp (rules : Rules) (f : List UInt8) : Key → Prop
  | source {flow later c} : CarriesPacket f flow later c → LooksUp rules f flow.endpoints.sourceKey
  | port {flow ports} : ReadsPorts rules f flow ports → LooksUp rules f (.port ports.2)

/-- Two ways to look up rules give the same for all keys that matter to the frame. -/
def Agree (rules rules' : Rules) (f : List UInt8) : Prop :=
  ∀ k, LooksUp rules f k → rules' k = rules k

theorem NeedsPorts.congr {flow : Flow} {c : Cursor} (hagree : Agree rules rules' f)
    (h : NeedsPorts rules f flow c) : NeedsPorts rules' f flow c :=
  ⟨h.packet, (hagree _ (.source h.packet)).trans h.noRule, h.hasPorts⟩

/-- A decision takes the same course when all that it looks up is the same. -/
theorem Course.congr {x : Finding} {n : Nat} (hagree : Agree rules rules' f)
    (h : Course rules queue f x n) : Course rules' queue f x n := by
  cases h with
  | ethernet hread => exact .ethernet hread
  | arp hc => exact .arp hc
  | otherType hc h4 ha h6 => exact .otherType hc h4 ha h6
  | ipv4 hc hread => exact .ipv4 hc hread
  | ipv6 hc hread => exact .ipv6 hc hread
  | source hp hrule => exact .source hp ((hagree _ (.source hp)).trans hrule)
  | noPorts hp hrule hports => exact .noPorts hp ((hagree _ (.source hp)).trans hrule) hports
  | later hp hrule hports => exact .later hp ((hagree _ (.source hp)).trans hrule) hports
  | transport hn hread => exact .transport (hn.congr hagree) hread
  | port hn hread hrule =>
    exact .port (hn.congr hagree) hread ((hagree _ (.port ⟨_, _, hn, hread⟩)).trans hrule)
  | unmatched hn hread hrule =>
    exact .unmatched (hn.congr hagree) hread ((hagree _ (.port ⟨_, _, hn, hread⟩)).trans hrule)

theorem decideFrame_congr (hagree : Agree rules rules' f) :
    decideFrame rules' queue f = decideFrame rules queue f := by
  obtain ⟨n, hcourse⟩ := exists_course_decideFrame rules queue f
  exact (hcourse.congr hagree).decideFrame_eq

namespace Gate
variable {g g' : Gate} {k : Key} {v : ProtocolSet}

/-! ## Changes of one rule -/

/-- The gates have the same rules, that of one key apart, and redirect to the same queues. -/
structure SameBut (k : Key) (g g' : Gate) : Prop where
  rules : ∀ x, x ≠ k → g'.book.get? x = g.book.get? x
  mode : g'.mode = g.mode

theorem insertRule_of_ok {b : Book} (h : g.book.insert k v = .ok b) :
    (g.insertRule k v).answer = .ok () ∧ (g.insertRule k v).gate = { g with book := b } := by
  rw [insertRule, h]
  exact ⟨rfl, rfl⟩

theorem insertRule_of_error {e : CapacityExceeded} (h : g.book.insert k v = .error e) :
    (g.insertRule k v).answer = .error e ∧ (g.insertRule k v).gate = g := by
  rw [insertRule, h]
  exact ⟨rfl, rfl⟩

theorem exists_book_of_insertRule (h : (g.insertRule k v).answer = .ok ()) :
    ∃ b, g.book.insert k v = .ok b ∧ (g.insertRule k v).gate = { g with book := b } := by
  cases hinsert : g.book.insert k v with
  | ok b => exact ⟨b, rfl, (insertRule_of_ok hinsert).2⟩
  | error e =>
    rw [(insertRule_of_error hinsert).1] at h
    cases h

theorem sameBut_insertRule (g : Gate) (k : Key) (v : ProtocolSet) :
    SameBut k g (g.insertRule k v).gate := by
  cases hinsert : g.book.insert k v with
  | ok b =>
    rw [(insertRule_of_ok hinsert).2]
    exact ⟨fun x hx => (Book.get?_insert hinsert x).trans (if_neg hx), rfl⟩
  | error e =>
    rw [(insertRule_of_error hinsert).2]
    exact ⟨fun _ _ => rfl, rfl⟩

theorem sameBut_eraseRule (g : Gate) (k : Key) : SameBut k g (g.eraseRule k).gate :=
  ⟨fun x hx => (Book.get?_erase g.book k x).trans (if_neg hx), rfl⟩

/-- A frame for which the key is not looked up is decided as before. -/
theorem SameBut.decide_eq (h : SameBut k g g') (hk : ¬LooksUp g.book.get? f k) :
    g'.decide f queue = g.decide f queue := by
  have hagree : Agree g.book.get? g'.book.get? f := fun x hx =>
    h.rules x fun hxk => hk (hxk ▸ hx)
  rw [decide, decide, h.mode, decideFrame_congr hagree]

/-- To take the rule from a key that had none before restores the gate. -/
theorem eraseRule_insertRule (hk : g.book.get? k = none)
    (hok : (g.insertRule k v).answer = .ok ()) :
    ((g.insertRule k v).gate.eraseRule k).answer = true ∧
      ((g.insertRule k v).gate.eraseRule k).gate = g := by
  obtain ⟨b, hinsert, hgate⟩ := exists_book_of_insertRule hok
  have herase : b.erase k = (true, g.book) := Book.erase_insert hk hinsert
  rw [hgate]
  exact ⟨congrArg Prod.fst herase, congrArg (fun e => { g with book := e.2 }) herase⟩

/-- To write a rule once more leaves the gate as it is. -/
theorem insertRule_insertRule (hok : (g.insertRule k v).answer = .ok ()) :
    ((g.insertRule k v).gate.insertRule k v).answer = .ok () ∧
      ((g.insertRule k v).gate.insertRule k v).gate = (g.insertRule k v).gate := by
  obtain ⟨b, hinsert, hgate⟩ := exists_book_of_insertRule hok
  rw [hgate]
  exact insertRule_of_ok (g := { g with book := b }) (Book.insert_again hinsert)

/-- **Rules are local and are taken back without a trace.** If writing or taking away the rule of a
key changes the verdict on a frame, then the key is that of the source of the packet in the frame,
or there is no rule for the source and it is that of the destination port, which has been read. To
take the rule from a key that had none before restores the gate with all its rules and verdicts, and
to write a rule once more leaves it as it is. -/
theorem rule_change_is_local (g : Gate) (k : Key) (v : ProtocolSet) :
    (∀ g', g' = (g.insertRule k v).gate ∨ g' = (g.eraseRule k).gate →
      ∀ f queue, (g'.classify f queue).1 ≠ (g.classify f queue).1 → LooksUp g.book.get? f k) ∧
    (g.book.get? k = none → (g.insertRule k v).answer = .ok () →
      ((g.insertRule k v).gate.eraseRule k).answer = true ∧
      ((g.insertRule k v).gate.eraseRule k).gate = g) ∧
    ((g.insertRule k v).answer = .ok () →
      ((g.insertRule k v).gate.insertRule k v).answer = .ok () ∧
      ((g.insertRule k v).gate.insertRule k v).gate = (g.insertRule k v).gate) := by
  refine ⟨fun g' hg' f queue hverdict => ?_, eraseRule_insertRule, insertRule_insertRule⟩
  have hsame : SameBut k g g' := by
    obtain rfl | rfl := hg'
    · exact g.sameBut_insertRule k v
    · exact g.sameBut_eraseRule k
  by_contra hunknown
  exact hverdict (congrArg Finding.verdict (hsame.decide_eq hunknown))

theorem rule_change_is_local_queryFrame :
    let s := listening.insertRule (.port 53) .udp
    (s.gate.classify queryFrame 0).1 = .redirect 0 ∧
    (listening.classify queryFrame 0).1 = .pass ∧
    LooksUp listening.book.get? queryFrame (.port 53) ∧
    listening.book.get? (.port 53) = none ∧ s.answer = .ok () ∧
    (s.gate.eraseRule (.port 53)).gate = listening ∧
    (s.gate.insertRule (.port 53) .udp).gate = s.gate := by
  obtain ⟨hlocal, hundo, hrepeat⟩ := rule_change_is_local listening (.port 53) .udp
  have hafter : ((listening.insertRule (.port 53) .udp).gate.classify queryFrame 0).1 =
      .redirect 0 := by decide +kernel
  have hbefore : (listening.classify queryFrame 0).1 = .pass := by decide +kernel
  have hchanged : ((listening.insertRule (.port 53) .udp).gate.classify queryFrame 0).1 ≠
      (listening.classify queryFrame 0).1 := by
    rw [hafter, hbefore]
    decide
  exact ⟨hafter, hbefore, hlocal _ (.inl rfl) queryFrame 0 hchanged, rfl, rfl, (hundo rfl rfl).2,
    (hrepeat rfl).2⟩

end Gate

end IngressGate
