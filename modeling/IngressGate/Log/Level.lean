import IngressGate.Log.Entry
import IngressGate.Text.Blank
import IngressGate.Text.Digits
/-!
# Log levels as text

A level is written as its name in any case, or as its number from 1 for errors to 5 for traces.
-/
namespace IngressGate.Log

/-- Whether two texts are equal up to the case of ASCII letters. -/
def equalIgnoringCase (a b : String) : Bool := a.toLower = b.toLower

/-- The number that decimal digits write, perhaps behind a plus sign. -/
def natOfText? (s : String) : Option Nat :=
  let ds := if s.toList.head? = some '+' then s.toList.tail else s.toList
  if ds.isEmpty ∨ !ds.all Char.isDigit then none else some (Text.natOfDigits 10 ds)

/-- The names of the severities. -/
def severityNames : List (String × Severity) :=
  [("error", .error), ("warn", .warn), ("info", .info), ("debug", .debug), ("trace", .trace)]

/-- The severity that a text names exactly. -/
def severityOfText? (s : String) : Option Severity :=
  match natOfText? s with
  | some n => (severityNames.find? (·.2.verbosity = n)).map (·.2)
  | none => (severityNames.find? fun p => equalIgnoringCase p.1 s).map (·.2)

/-- The severity that the text of a setting names, white space around it aside. -/
def levelOfText? (s : String) : Option Severity := severityOfText? (Text.trim s)

end IngressGate.Log
