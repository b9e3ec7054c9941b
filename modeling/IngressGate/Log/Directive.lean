import IngressGate.Log.Level
import IngressGate.Log.Pattern
import IngressGate.Text.Bytes
/-!
# Directives of log filters

A directive such as `xdpgate::events[{kind}]=debug` lets entries up to a verbosity through, all of
them or those of targets that start with its own and with the fields it asks for.

White space around a directive plays no part in where its parts end. The parts themselves are cut
out of the whole text at those positions, though, so that white space in front shifts them and white
space behind belongs to the last one.
-/
namespace IngressGate.Log

/-- What a directive asks of a field: that there is one of this name and, given a value, that it has
this constant or matches this pattern. -/
structure FieldTest where
  name : String
  value : Option String := none
  deriving DecidableEq, Repr

namespace FieldTest

/-- Whether characters are an exponent of a number, or none. -/
def isExponent : List Char → Bool
  | [] => true
  | e :: cs =>
    let ds := if cs.head? = some '+' ∨ cs.head? = some '-' then cs.tail else cs
    (e = 'e' ∨ e = 'E') ∧ !ds.isEmpty ∧ ds.all Char.isDigit

/-- Whether characters write a number, perhaps with a sign, a fraction and an exponent; infinity and
what is not a number are written as names. -/
def isNumber (cs : List Char) : Bool :=
  let cs := if cs.head? = some '+' ∨ cs.head? = some '-' then cs.tail else cs
  let whole := cs.takeWhile Char.isDigit
  let behind := cs.drop whole.length
  let fraction := if behind.head? = some '.' then behind.tail.takeWhile Char.isDigit else []
  let behind := if behind.head? = some '.' then behind.tail.drop fraction.length else behind
  (!(whole ++ fraction).isEmpty && isExponent behind) ||
    ["nan", "inf", "infinity"].any (equalIgnoringCase (String.ofList cs) ·)

/-- Reads the test of a field; what comes behind a second equals sign is ignored. -/
def ofChars (cs : List Char) : Except PatternError FieldTest :=
  let name := cs.takeWhile (· ≠ '=')
  match cs.drop name.length with
  | [] => .ok ⟨String.ofList name, none⟩
  | _ :: cs =>
    let value := cs.takeWhile (· ≠ '=')
    let text := String.ofList value
    let test : FieldTest := ⟨String.ofList name, some text⟩
    if text = "true" ∨ text = "false" ∨ isNumber value then .ok test
    else (Pattern.check text).map fun _ => test

end FieldTest

/-- A directive. `target` restricts it to targets that start so, `fields` to entries that pass the
tests. One that names a span, or the value of a field, never applies to an entry outside spans. -/
structure Directive where
  target : Option String := none
  span : Option String := none
  fields : List FieldTest := []
  verbosity : Nat := 5
  deriving DecidableEq, Repr

namespace Directive

/-- Why a text is not a directive. -/
inductive Problem
  | form
  | verbosity
  | field (error : PatternError)
  deriving DecidableEq, Repr

/-- The wording of the problem. -/
def Problem.message : Problem → String
  | form => "invalid filter directive"
  | verbosity =>
    "error parsing level filter: expected one of \"off\", \"error\", \"warn\", \"info\", " ++
      "\"debug\", \"trace\", or a number 0-5"
  | field error => "invalid field filter: " ++ error.message

/-- The verbosity that a text stands for: a name in any case, or a number from 0 to 5. -/
def verbosityOfText? (s : String) : Option Nat :=
  if s = "" then some 1
  else if s = "0" ∨ equalIgnoringCase s "off" then some 0
  else if natOfText? s = some 0 then some 0
  else (severityOfText? s).map (·.verbosity)

/-- The part of a directive between two positions. -/
def part (whole : List Char) (start stop : Nat) : Except Problem (List Char) :=
  match Text.cut? start stop whole with
  | some cs => .ok cs
  | none => .error .form

/-- Reads the verbosity, which starts at `start`. -/
def readVerbosity (whole : List Char) (d : Directive) (start : Nat) : Except Problem Directive := do
  let s := String.ofList (← part whole start (Text.byteLength whole))
  if s = "" then return { d with verbosity := 5 }
  else
    match verbosityOfText? s with
    | some verbosity => return { d with verbosity := verbosity }
    | none => throw .verbosity

/-- Reads what stands behind the brackets of a span: `cs`, from `start` on. -/
def readAfterSpan (whole : List Char) (d : Directive) (start : Nat) :
    (cs : List Char) → Except Problem Directive
  | [] => .ok d
  | '=' :: _ => readVerbosity whole d (start + 1)
  | _ => .error .form

/-- Reads the fields between the braces of a span: `cs`, from `start` on behind the brace. -/
def readFields (whole : List Char) (d : Directive) (start : Nat) (cs : List Char) :
    Except Problem Directive := do
  let field := cs.takeWhile (· ≠ '\x7d')
  let stop := start + Text.byteLength field
  match cs.drop field.length with
  | [] => throw .form
  | _ :: cs =>
    if field.isEmpty then throw .form
    match FieldTest.ofChars (← part whole start stop) with
    | .error e => throw (.field e)
    | .ok test =>
      match cs with
      | ']' :: cs => readAfterSpan whole { d with fields := [test] } (stop + 2) cs
      | _ => throw .form

/-- Reads the brackets of a span: `cs`, from `start` on behind the opening one. -/
def readSpan (whole : List Char) (d : Directive) (start : Nat) (cs : List Char) :
    Except Problem Directive := do
  let name := cs.takeWhile fun c => c ≠ ']' ∧ c ≠ '\x7b'
  let stop := start + Text.byteLength name
  match cs.drop name.length with
  | [] => throw .form
  | close :: cs => do
    let span := String.ofList (← part whole start stop)
    if close = ']' then readAfterSpan whole { d with span := some span } (stop + 1) cs
    else
      readFields whole { d with span := if name.isEmpty then none else some span } (stop + 1) cs

/-- Whether a directive can start with a character. -/
def startsName (c : Char) : Bool :=
  c = '-' ∨ c = ':' ∨ c = '_' ∨ Text.isLetter c ∨ Text.isNumber c

/-- Reads a directive. -/
def ofText (s : String) : Except Problem Directive := do
  let whole := s.toList
  let cs := Text.trimChars whole
  match cs with
  | [] => throw .form
  | '[' :: cs => readSpan whole {} 1 cs
  | c :: _ =>
    if !startsName c then throw .form
    let name := cs.takeWhile fun c => c ≠ '=' ∧ c ≠ '['
    let stop := Text.byteLength name
    match cs.drop name.length with
    | [] =>
      match verbosityOfText? s with
      | some verbosity => return { verbosity := verbosity }
      | none => return { target := some s }
    | sign :: cs => do
      let target := String.ofList (← part whole 0 stop)
      if sign = '=' then readVerbosity whole { target := some target } (stop + 1)
      else readSpan whole { target := some target } (stop + 1) cs

/-- Whether a directive can apply outside spans. -/
def isStatic (d : Directive) : Bool := d.span.isNone ∧ d.fields.all (·.value.isNone)

/-- Whether a directive applies to an entry. -/
def appliesTo (d : Directive) (e : Entry) : Bool :=
  d.isStatic &&
    (match d.target with
      | none => true
      | some t => t.toList.isPrefixOf e.target.toList) &&
    d.fields.all fun f => f.name = "message" ∨ (e.fields.map (·.1)).contains f.name

/-- How specific a directive is: first the length of its target, then its number of fields. -/
def specificity (d : Directive) : Nat × Nat :=
  (match d.target with
    | none => 0
    | some t => t.utf8ByteSize + 1, d.fields.length)

/-- Whether the second directive takes precedence over the first, which came before it, when both
apply to an entry: the more specific one, of equally specific ones the one with the later field in
alphabetical order, and of two that differ in no more than their verbosity the second. -/
def yieldsTo (a b : Directive) : Bool :=
  let (n, m) := a.specificity
  let (n', m') := b.specificity
  let field (d : Directive) : String := (d.fields.head?.map (·.name)).getD ""
  n < n' ∨ (n = n' ∧ m < m') ∨ (n = n' ∧ m = m' ∧ field a ≤ field b)

end Directive

end IngressGate.Log
