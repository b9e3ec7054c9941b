/-!
# Consumer rings

A ring holds the frames that were pushed to a consumer and not yet taken. A frame that finds the
ring full, or its consumer gone, is dropped and counted. `Rings` keeps all rings that were opened;
a handle names one of them for good.
-/
namespace IngressGate

/-- The ring of one consumer. -/
structure Ring where
  queue : UInt32
  capacity : Nat
  frames : List (List UInt8) := []
  overruns : UInt64 := 0
  isOpen : Bool := true
  deriving DecidableEq, Repr

namespace Ring

/-- Whether a frame can be pushed. -/
def hasRoom (r : Ring) : Bool := r.isOpen && r.frames.length < r.capacity

/-- Pushes a copy of a frame, and tells whether there was room. -/
def push (r : Ring) (frame : List UInt8) : Bool × Ring :=
  if r.hasRoom then (true, { r with frames := r.frames ++ [frame] })
  else (false, { r with overruns := r.overruns + 1 })

/-- Takes all frames, oldest first. -/
def drain (r : Ring) : List (List UInt8) × Ring :=
  if r.isOpen then (r.frames, { r with frames := [] }) else ([], r)

/-- Drops the consumer. What the ring holds stays there, out of reach. -/
def close (r : Ring) : Ring := { r with isOpen := false }

end Ring

/-- The name of a ring among `Rings`. -/
structure RingHandle where
  index : Nat
  deriving DecidableEq, Repr

/-- The rings that were opened, in order. -/
structure Rings where
  rings : List Ring := []
  deriving DecidableEq, Repr

namespace Rings

/-- Opens an empty ring. -/
def openRing (rs : Rings) (queue : UInt32) (capacity : Nat) : RingHandle × Rings :=
  (⟨rs.rings.length⟩, ⟨rs.rings ++ [{ queue := queue, capacity := capacity }]⟩)

/-- The ring of a handle. -/
def get? (rs : Rings) (h : RingHandle) : Option Ring := rs.rings[h.index]?

/-- Changes the ring of a handle. -/
def modify (rs : Rings) (h : RingHandle) (f : Ring → Ring) : Rings :=
  ⟨rs.rings.modify h.index f⟩

/-- Pushes a frame to a ring, and tells whether there was room. -/
def push (rs : Rings) (h : RingHandle) (frame : List UInt8) : Bool × Rings :=
  match rs.get? h with
  | some r => (r.hasRoom, rs.modify h fun r => (r.push frame).2)
  | none => (false, rs)

end Rings

end IngressGate
