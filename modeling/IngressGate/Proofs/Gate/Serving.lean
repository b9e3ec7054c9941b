import IngressGate.Proofs.Gate.Arrivals
/-!
# Serving a capture

A running gate receives every frame into one and the same buffer, where it overwrites what is left
of the frames before it. `Gate.serveThrough` serves a capture this way. It comes to the same as
`Gate.serve`, which knows no buffer, and both come to processing the frames one after the other,
each cut to the size of the buffer.
-/
namespace IngressGate

/-! ## The receive buffer -/

/-- The buffer into which all frames are received. -/
abbrev ReceiveBuffer := Vector UInt8 Ethernet.maxFrameSize

namespace ReceiveBuffer

/-- How many bytes of a frame there is room for. -/
def capturedLength (frame : List UInt8) : Nat := min frame.length Ethernet.maxFrameSize

/-- Copies a frame to the start of the buffer, as far as there is room. The bytes of the buffer
behind it stay there. -/
def receive (b : ReceiveBuffer) (frame : List UInt8) : ReceiveBuffer :=
  ⟨(frame.take Ethernet.maxFrameSize ++ b.toList.drop (capturedLength frame)).toArray, by
    simp only [capturedLength, List.size_toArray, List.length_append, List.length_take,
      List.length_drop, Vector.length_toList]
    omega⟩

/-- The first `n` bytes of the buffer. -/
def front (b : ReceiveBuffer) (n : Nat) : List UInt8 := b.toList.take n

theorem length_take (frame : List UInt8) :
    (frame.take Ethernet.maxFrameSize).length = capturedLength frame := by
  rw [List.length_take, capturedLength, Nat.min_comm]

/-- Nothing that was in the buffer is seen again. -/
theorem front_receive (b : ReceiveBuffer) (frame : List UInt8) :
    (b.receive frame).front (capturedLength frame) = frame.take Ethernet.maxFrameSize :=
  List.take_left' (length_take frame)

end ReceiveBuffer

/-- A frame on the wire, and the queue that it arrives on. -/
structure WireFrame where
  bytes : List UInt8
  queue : UInt32

namespace WireFrame
variable (w : WireFrame)

/-- The frame as a capture receives it that reports its length on the wire. -/
def received : Received := .frame w.bytes w.queue w.bytes.length

/-- What of the frame fits into the receive buffer. -/
def captured : List UInt8 := w.bytes.take Ethernet.maxFrameSize

/-- The frame does not fit into the receive buffer. -/
def isTooLong : Bool := Ethernet.maxFrameSize < w.bytes.length

theorem length_captured_lt_iff :
    w.captured.length < w.bytes.length ↔ w.isTooLong = true := by
  simp [captured, isTooLong]

end WireFrame

/-- How serving ends. -/
inductive Ending
  | shutdown
  | failure (error : Failure)

/-- What the capture has to give at the end. -/
def Ending.received : Ending → List Received
  | shutdown => []
  | failure e => [.failure e]

/-- What serving answers after so many frames. -/
def Ending.answer (frames : UInt64) : Ending → Except Failure UInt64
  | shutdown => .ok frames
  | failure e => .error e

/-- What a capture receives that reports the lengths on the wire. -/
def capture (frames : List WireFrame) (ending : Ending) : List Received :=
  frames.map (·.received) ++ ending.received

namespace Gate

/-- Processes what a capture puts into the buffer, until the capture fails or there is no more. The
answer is the number of frames on top of `count`. -/
def serveThrough (b : ReceiveBuffer) (g : Gate) (count : UInt64) :
    List Received → Step (Except Failure UInt64)
  | [] => { answer := .ok count, gate := g }
  | .failure e :: _ =>
    { answer := .error e
      gate := g
      log := [⟨.warn, frameTarget, "Capture failed", [("error", .plain e.message)]⟩] }
  | .frame bytes queue wireLength :: rest =>
    let b := b.receive bytes
    let captured := ReceiveBuffer.capturedLength bytes
    let (g, cutLog) := g.noteLength wireLength captured
    let s := g.process (b.front captured) queue
    let r := s.gate.serveThrough b (count + 1) rest
    { answer := r.answer, gate := r.gate, log := cutLog ++ s.log ++ r.log }

/-- What is left in the buffer does not matter. -/
theorem serveThrough_eq (b : ReceiveBuffer) (g : Gate) (count : UInt64) (rs : List Received) :
    g.serveThrough b count rs = g.serve count rs := by
  induction rs generalizing b g count with
  | nil => rfl
  | cons r rs ih =>
    cases r with
    | failure e => rfl
    | frame bytes queue wireLength =>
      simp only [serveThrough, serve, ReceiveBuffer.front_receive, ReceiveBuffer.length_take, ih]

end Gate

/-! ## Frames that were cut short -/

namespace Counters

/-- The counters once so many more frames have been counted as cut short. -/
def addTruncations (c : Counters) (n : Nat) : Counters :=
  { c with truncated := c.truncated + .ofNat n }

/-- What a frame adds to the counters has nothing to do with those that were cut short. -/
theorem account_addTruncations (c : Counters) (n : Nat) (a : Arrival) :
    (c.addTruncations n).account a = (c.account a).addTruncations n := by
  have hqueues : ((c.addTruncations n).account a).queues = (c.account a).queues :=
    Vector.ext fun i hi => by rw [getElem_account hi, getElem_account hi]; rfl
  rw [account_eq (c.addTruncations n) a, hqueues, account_eq c a]
  rfl

theorem addTruncations_addTruncations (c : Counters) (m n : Nat) :
    (c.addTruncations m).addTruncations n = c.addTruncations (m + n) := by
  simp only [addTruncations, UInt64.ofNat_add, UInt64.add_assoc]

end Counters

namespace Gate

/-- The gate once so many more frames have been counted as cut short. -/
def addTruncations (g : Gate) (n : Nat) : Gate := { g with counters := g.counters.addTruncations n }

@[simp] theorem addTruncations_zero (g : Gate) : g.addTruncations 0 = g := by
  simp [addTruncations, Counters.addTruncations]

theorem addTruncations_addTruncations (g : Gate) (m n : Nat) :
    (g.addTruncations m).addTruncations n = g.addTruncations (m + n) := by
  simp only [addTruncations, Counters.addTruncations_addTruncations]

theorem carryOut_eq (g : Gate) (frame : List UInt8) (d : Disposition RingHandle) :
    (g.carryOut frame d).1 = { g with rings := (g.carryOut frame d).1.rings } := by
  cases d <;> rfl

variable (g : Gate) (n : Nat)

theorem gate_process (frame : List UInt8) (queue : UInt32) :
    (g.process frame queue).gate = { g with
      events := (g.emit (g.decide frame queue).event).events
      counters := g.counters.account ⟨g, frame, queue⟩
      rings := (g.process frame queue).gate.rings } :=
  carryOut_eq _ frame _

theorem gate_process_addTruncations (frame : List UInt8) (queue : UInt32) :
    ((g.addTruncations n).process frame queue).gate =
      (g.process frame queue).gate.addTruncations n := by
  have hrings : ((g.addTruncations n).process frame queue).gate.rings =
      (g.process frame queue).gate.rings := by
    rw [rings_process, rings_process]
    rfl
  have hcounters : (g.addTruncations n).counters.account ⟨g.addTruncations n, frame, queue⟩ =
      (g.counters.account ⟨g, frame, queue⟩).addTruncations n :=
    g.counters.account_addTruncations n ⟨g, frame, queue⟩
  rw [gate_process, hrings, hcounters, gate_process g frame queue]
  rfl

/-! ## Serving is processing -/

/-- Processes frames one after the other, each cut to the size of the receive buffer. -/
def processAll (g : Gate) (frames : List WireFrame) : Gate :=
  frames.foldl (fun g w => (g.process w.captured w.queue).gate) g

theorem processAll_addTruncations (frames : List WireFrame) :
    (g.addTruncations n).processAll frames = (g.processAll frames).addTruncations n := by
  induction frames generalizing g with
  | nil => rfl
  | cons w frames ih =>
    show ((g.addTruncations n).process w.captured w.queue).gate.processAll frames = _
    rw [gate_process_addTruncations, ih]
    rfl

theorem noteLength_received (w : WireFrame) :
    (g.noteLength w.bytes.length w.captured.length).1 = g.addTruncations w.isTooLong.toNat := by
  rw [noteLength]
  by_cases hlong : w.isTooLong = true
  · rw [if_pos (w.length_captured_lt_iff.mpr hlong), hlong]
    rfl
  · have hshort : w.isTooLong = false := Bool.not_eq_true _ |>.mp hlong
    rw [if_neg (mt w.length_captured_lt_iff.mp hlong), hshort, Bool.toNat_false,
      addTruncations_zero]

theorem serve_capture_cons (count : UInt64) (w : WireFrame) (frames : List WireFrame)
    (ending : Ending) :
    let s := g.serve count (capture (w :: frames) ending)
    let r := ((g.addTruncations w.isTooLong.toNat).process w.captured w.queue).gate.serve
      (count + 1) (capture frames ending)
    s.gate = r.gate ∧ s.answer = r.answer := by
  rw [← noteLength_received]
  exact ⟨rfl, rfl⟩

-- The truncations are moved past the frames that follow, one frame at a time.
theorem serve_capture (count : UInt64) (frames : List WireFrame) (ending : Ending) :
    let s := g.serve count (capture frames ending)
    s.gate = (g.processAll frames).addTruncations (frames.countP (·.isTooLong)) ∧
      s.answer = ending.answer (count + .ofNat frames.length) := by
  induction frames generalizing g count with
  | nil =>
    have hcount : count + UInt64.ofNat 0 = count := by simp
    rw [List.countP_nil, processAll, List.foldl_nil, addTruncations_zero, List.length_nil, hcount]
    cases ending <;> exact ⟨rfl, rfl⟩
  | cons w frames ih =>
    obtain ⟨hgate, hanswer⟩ := g.serve_capture_cons count w frames ending
    obtain ⟨ihgate, ihanswer⟩ :=
      ih ((g.addTruncations w.isTooLong.toNat).process w.captured w.queue).gate (count + 1)
    have hcount : count + 1 + UInt64.ofNat frames.length = count + .ofNat (frames.length + 1) := by
      rw [UInt64.ofNat_add, UInt64.add_assoc, UInt64.add_comm 1]
      rfl
    have htooLong : w.isTooLong.toNat + frames.countP (·.isTooLong) =
        (w :: frames).countP (·.isTooLong) := by
      rw [List.countP_cons, Nat.add_comm]
      cases w.isTooLong <;> rfl
    constructor
    · calc _ = _ := hgate
        _ = _ := ihgate
        _ = ((g.processAll (w :: frames)).addTruncations w.isTooLong.toNat).addTruncations
              (frames.countP (·.isTooLong)) := by
            rw [gate_process_addTruncations, processAll_addTruncations]
            rfl
        _ = _ := by rw [addTruncations_addTruncations, htooLong]
    · rw [hanswer, ihanswer, hcount, List.length_cons]

/-- **Serving comes to processing the frames in order**, each cut to its first 1522 bytes and on its
own queue, and to counting those that were longer. No frame is left out, however serving ends, and
what is in the receive buffer does not matter. -/
theorem serveThrough_processes_captured (b : ReceiveBuffer) (g : Gate) (frames : List WireFrame)
    (ending : Ending) :
    let s := g.serveThrough b 0 (capture frames ending)
    let processed := frames.foldl (fun g w => (g.process (w.bytes.take 1522) w.queue).gate) g
    s.gate = processed.addTruncations (frames.countP fun w => 1522 < w.bytes.length) ∧
      s.answer = ending.answer (.ofNat frames.length) ∧
      s = g.serve 0 (capture frames ending) := by
  have hserve := g.serveThrough_eq b 0 (capture frames ending)
  obtain ⟨hgate, hanswer⟩ := g.serve_capture 0 frames ending
  rw [UInt64.zero_add] at hanswer
  exact ⟨hserve ▸ hgate, hserve ▸ hanswer, hserve⟩

end Gate

end IngressGate
