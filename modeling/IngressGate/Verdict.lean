/-!
# Verdicts

What is to become of a frame, and how the queue of a redirect is chosen.
-/
namespace IngressGate

/-- The outcome of classifying a frame. -/
inductive Verdict
  | pass
  | drop
  | redirect (queue : UInt32)
  deriving DecidableEq, Repr

/-- The text of a verdict. -/
def Verdict.text : Verdict → String
  | pass => "PASS"
  | drop => "DROP"
  | redirect queue => s!"REDIRECT(queue {queue})"

/-- Where redirected frames go. -/
inductive RedirectMode
  /-- All to one queue. -/
  | fixed (queue : UInt32)
  /-- Each to the queue it arrived on. -/
  | arrival
  deriving DecidableEq, Repr

namespace RedirectMode

/-- The word that stands for the arrival mode. -/
def arrivalWord : UInt32 := 0xFFFFFFFF

/-- A mode as one word; the largest queue number has no word of its own. -/
def toWord : RedirectMode → UInt32
  | fixed queue => queue
  | arrival => arrivalWord

/-- The mode of a word. -/
def ofWord (w : UInt32) : RedirectMode := if w = arrivalWord then arrival else fixed w

/-- The queue for a frame that arrived on `arrivalQueue`. -/
def queue (mode : RedirectMode) (arrivalQueue : UInt32) : UInt32 :=
  match mode with
  | fixed q => q
  | arrival => arrivalQueue

/-- The text of a mode in the log. -/
def text : RedirectMode → String
  | fixed q => s!"Fixed({q})"
  | arrival => "ArrivalQueue"

end RedirectMode

end IngressGate
