/-!
# Log entries

What the program reports about itself: a severity, the part of the program that speaks, a message
and named fields in order.
-/
namespace IngressGate.Log

/-- How severe an entry is. -/
inductive Severity
  | trace
  | debug
  | info
  | warn
  | error
  deriving DecidableEq, Repr

namespace Severity

/-- How much an entry of this severity needs to be let through: 1 for errors, 5 for traces. -/
def verbosity : Severity → Nat
  | error => 1
  | warn => 2
  | info => 3
  | debug => 4
  | trace => 5

/-- The name of a severity in a log line. -/
def name : Severity → String
  | trace => "TRACE"
  | debug => "DEBUG"
  | info => "INFO"
  | warn => "WARN"
  | error => "ERROR"

end Severity

/-- The value of a field. -/
inductive Value
  /-- A number. -/
  | number (n : Nat)
  /-- A text, shown as it is. -/
  | plain (text : String)
  /-- A text, shown between quotes. -/
  | name (text : String)
  deriving DecidableEq, Repr

/-- The text of a value, whatever its layout. -/
def Value.text : Value → String
  | number n => toString n
  | plain s => s
  | name s => s

/-- One entry. -/
structure Entry where
  severity : Severity
  target : String
  message : String
  fields : List (String × Value) := []
  deriving DecidableEq, Repr

end IngressGate.Log
