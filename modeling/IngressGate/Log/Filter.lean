import IngressGate.Log.Directive
/-!
# Log filters

A filter is a list of directives with commas between, such as `info,xdpgate::events=debug`. Of the
directives that apply to an entry the most specific decides. A filter without directives lets errors
through.
-/
namespace IngressGate.Log

/-- A filter. -/
structure Filter where
  directives : List Directive
  deriving DecidableEq, Repr

namespace Filter

/-- The directives of a text and, for each that cannot be read, the text of a complaint. -/
def ofText (s : String) : Filter × List String :=
  let parts := (s.splitOn ",").filter (· ≠ "")
  let read := parts.map fun part => (part, Directive.ofText part)
  let good := read.filterMap fun r => r.2.toOption
  let bad := read.filterMap fun r =>
    match r.2 with
    | .ok _ => none
    | .error problem => some ("ignoring `" ++ r.1 ++ "`: " ++ problem.message)
  (⟨if good.isEmpty then [{ verbosity := 1 }] else good⟩, bad)

/-- The filter that lets everything up to a severity through. -/
def upTo (s : Severity) : Filter := ⟨[{ verbosity := s.verbosity }]⟩

/-- The directive that decides about an entry. -/
def deciding? (f : Filter) (e : Entry) : Option Directive :=
  (f.directives.filter (·.appliesTo e)).foldl (fun best d =>
    match best with
    | none => some d
    | some b => if b.yieldsTo d then some d else some b) none

/-- Whether an entry is let through. -/
def admits (f : Filter) (e : Entry) : Bool :=
  match f.deciding? e with
  | none => false
  | some d => e.severity.verbosity ≤ d.verbosity

end Filter

end IngressGate.Log
