import IngressGate.Proofs.Gate.Traffic
/-!
# Rings

A ring is a bounded queue of frames. What it holds and what it accepts is what is taken from it and
what it then holds, in order; a frame that is pushed in vain is counted. Of all rings, each is
changed only where its own handle is named.
-/
namespace IngressGate

namespace Ring

/-- What is done with one ring. -/
inductive Use
  | push (frame : List UInt8)
  | receive (count : Nat)
  | drain
  | close

/-- The ring after a use. -/
def next (r : Ring) : Use → Ring
  | .push frame => (r.push frame).2
  | .receive count => (r.receive count).2
  | .drain => r.drain.2
  | .close => r.close

/-- The frame that is pushed while there is room. -/
def accepted (r : Ring) : Use → List (List UInt8)
  | .push frame => if r.hasRoom then [frame] else []
  | _ => []

/-- A frame is pushed and there is no room. -/
def refuses (r : Ring) : Use → Bool
  | .push _ => !r.hasRoom
  | _ => false

/-- The frame that is pushed. -/
def Use.frame? : Use → Option (List UInt8)
  | push frame => some frame
  | _ => none

/-- The frames that are taken. -/
def received (r : Ring) : Use → List (List UInt8)
  | .receive count => (r.receive count).1
  | .drain => r.drain.1
  | _ => []

/-- What the ring holds and what it accepts is taken or held, in order. -/
theorem frames_next (r : Ring) (u : Use) :
    r.frames ++ r.accepted u = r.received u ++ (r.next u).frames := by
  cases u with
  | push frame =>
    show r.frames ++ r.accepted (.push frame) = (r.push frame).2.frames
    rw [accepted, push]
    split <;> simp
  | receive count =>
    show r.frames ++ [] = (r.receive count).1 ++ (r.receive count).2.frames
    rw [receive, List.append_nil]
    split
    · exact (List.take_append_drop count r.frames).symm
    · rfl
  | drain =>
    show r.frames ++ [] = r.drain.1 ++ r.drain.2.frames
    rw [drain]
    split <;> simp
  | close => exact List.append_nil _

theorem overruns_next (r : Ring) (u : Use) :
    (r.next u).overruns = r.overruns + if r.refuses u then 1 else 0 := by
  cases u with
  | push frame =>
    show (r.push frame).2.overruns = r.overruns + if r.refuses (.push frame) then 1 else 0
    rw [push, refuses]
    cases r.hasRoom <;> simp
  | receive count =>
    show (r.receive count).2.overruns = r.overruns + 0
    rw [receive, UInt64.add_zero]
    split <;> rfl
  | drain =>
    show r.drain.2.overruns = r.overruns + 0
    rw [drain, UInt64.add_zero]
    split <;> rfl
  | close => exact (UInt64.add_zero _).symm

theorem isOpen_next (r : Ring) (u : Use) :
    (r.next u).isOpen = true ↔ r.isOpen = true ∧ u ≠ .close := by
  cases u with
  | push frame =>
    rw [next, push]
    split <;> simp
  | receive count =>
    rw [next, receive]
    split <;> simp_all
  | drain =>
    rw [next, drain]
    split <;> simp_all
  | close => simp [next, close]

/-- A ring never holds more than it can. -/
theorem length_frames_next {r : Ring} {capacity : Nat}
    (h : r.capacity = capacity ∧ r.frames.length ≤ capacity) (u : Use) :
    (r.next u).capacity = capacity ∧ (r.next u).frames.length ≤ capacity := by
  obtain ⟨rfl, hlength⟩ := h
  cases u with
  | push frame =>
    show (r.push frame).2.capacity = _ ∧ (r.push frame).2.frames.length ≤ _
    rw [push]
    split
    · next hroom =>
      have hless : r.frames.length < r.capacity := by
        simp only [hasRoom, Bool.and_eq_true, decide_eq_true_eq] at hroom
        exact hroom.2
      refine ⟨rfl, ?_⟩
      simp only [List.length_append, List.length_singleton]
      omega
    · exact ⟨rfl, hlength⟩
  | receive count =>
    show (r.receive count).2.capacity = _ ∧ (r.receive count).2.frames.length ≤ _
    rw [receive]
    split
    · refine ⟨rfl, ?_⟩
      simp only [List.length_drop]
      omega
    · exact ⟨rfl, hlength⟩
  | drain =>
    show r.drain.2.capacity = _ ∧ r.drain.2.frames.length ≤ _
    rw [drain]
    split
    · exact ⟨rfl, Nat.zero_le _⟩
    · exact ⟨rfl, hlength⟩
  | close => exact ⟨rfl, hlength⟩

/-- What a ring holds when its consumer is gone stays there. -/
theorem frames_next_of_closed {r : Ring} (h : r.isOpen = false) (u : Use) :
    (r.next u).frames = r.frames := by
  cases u with
  | push frame =>
    have hroom : r.hasRoom = false := by simp [hasRoom, h]
    simp [next, push, hroom]
  | receive count => simp [next, receive, h]
  | drain => simp [next, drain, h]
  | close => rfl

end Ring

namespace Rings
variable {rs : Rings} {h h' : RingHandle} {r : Ring}

theorem get?_modify_self (f : Ring → Ring) (hr : rs.get? h = some r) :
    (rs.modify h f).get? h = some (f r) := by
  rw [get?] at hr
  simp [get?, modify, hr]

theorem get?_modify_of_ne (f : Ring → Ring) (hne : h' ≠ h) :
    (rs.modify h' f).get? h = rs.get? h := by
  have hindex : h'.index ≠ h.index := fun hindex => hne (by cases h; cases h'; cases hindex; rfl)
  simp [get?, modify, hindex]

theorem get?_push_self (frame : List UInt8) (hr : rs.get? h = some r) :
    (rs.push h frame).2.get? h = some (r.push frame).2 := by
  rw [push, hr]
  exact get?_modify_self _ hr

theorem get?_push_of_ne (frame : List UInt8) (hne : h' ≠ h) :
    (rs.push h' frame).2.get? h = rs.get? h := by
  rw [push]
  cases rs.get? h' with
  | none => rfl
  | some r => exact get?_modify_of_ne _ hne

/-- Opening another ring leaves a ring as it was. -/
theorem get?_openRing_of_some (hr : rs.get? h = some r) (queue : UInt32) (capacity : Nat) :
    (rs.openRing queue capacity).2.get? h = some r := by
  obtain ⟨hlt, -⟩ := List.getElem?_eq_some_iff.mp hr
  rw [← hr]
  exact List.getElem?_append_left hlt

theorem get?_openRing (rs : Rings) (queue : UInt32) (capacity : Nat) :
    (rs.openRing queue capacity).2.get? (rs.openRing queue capacity).1 =
      some { queue := queue, capacity := capacity } := by
  simp [openRing, get?]

end Rings

end IngressGate
