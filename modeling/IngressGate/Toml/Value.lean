import IngressGate.Toml.Real
/-!
# Documents

A document is a table of values. It is built from statements in their order: headers open a table or
a new element of an array of tables, and assignments put a value under a key of the open table. The
rules below say which statements contradict each other.
-/
namespace IngressGate.Toml

/-- How a table came to be. -/
inductive Origin
  /-- It has a header of its own, or is the document itself. -/
  | header
  /-- It lies on the way to the table of a header. -/
  | implied
  /-- It lies on the way to a dotted key. -/
  | dotted
  /-- It was written between braces. -/
  | inline
  deriving DecidableEq, Repr

/-- A value of a document. -/
inductive Value
  | string (text : String)
  | integer (n : Int)
  | real (r : Real)
  | boolean (b : Bool)
  | datetime
  | array (items : List Value)
  /-- An array of tables that were opened by headers; the last one is open. -/
  | tables (elements : List (List (String × Value)))
  | table (origin : Origin) (entries : List (String × Value))
  deriving Repr

/-- The entries of a table in the order in which they came. -/
abbrev Entries := List (String × Value)

namespace Entries

/-- The value of a key. -/
def get? (key : String) : Entries → Option Value
  | [] => none
  | (k, v) :: es => if k = key then some v else get? key es

/-- Replaces the value of a key, or adds the key at the end. -/
def put (key : String) (value : Value) : Entries → Entries
  | [] => [(key, value)]
  | (k, v) :: es => if k = key then (k, value) :: es else (k, v) :: put key value es

/-- Changes the value of a key, or gives one to a new key at the end. -/
def alter (key : String) (f : Option Value → Option Value) (es : Entries) : Option Entries :=
  (f (es.get? key)).map fun v => es.put key v

/-- Removes a key. -/
def erase (key : String) (es : Entries) : Entries := es.filter fun e => e.1 ≠ key

/-- Changes the last of a list of tables. -/
def alterLast (f : Entries → Option Entries) : List Entries → Option (List Entries)
  | [] => none
  | [es] => (f es).map fun es => [es]
  | es :: rest => (alterLast f rest).map fun rest => es :: rest

/-- Changes the table at the end of a path of keys. Missing tables on the way are made, by `origin`;
the way of a dotted key must not lead through the table of a header. -/
def descend (origin : Origin) (f : Origin → Entries → Option Entries) :
    (path : List String) → (here : Origin) → (es : Entries) → Option Entries
  | [], here, es => f here es
  | key :: path, _, es =>
    es.alter key fun
      | none => (descend origin f path origin []).map (.table origin)
      | some (.table .inline _) => none
      | some (.table there es) =>
        if origin = .dotted ∧ there = .header then none
        else (descend origin f path there es).map (.table there)
      | some (.tables ts) => (alterLast (descend origin f path .header) ts).map .tables
      | some _ => none

/-- Puts a value under a key that is still free, at the end of a dotted path. -/
def assign (path : List String) (key : String) (value : Value) (es : Entries) : Option Entries :=
  descend .dotted (fun here es =>
    if path ≠ [] ∧ here ≠ .dotted then none
    else if (es.get? key).isSome then none
    else some (es.put key value)) path .header es

/-- Opens the table of a header. It takes the last place among its siblings, also when it was
implied before. -/
def openTable (path : List String) (key : String) (es : Entries) : Option Entries :=
  descend .implied (fun _ es =>
    match es.get? key with
    | none => some (es.put key (.table .header []))
    | some (.table .implied children) => some ((es.erase key).put key (.table .header children))
    | some _ => none) path .header es

/-- Opens a new element of an array of tables. -/
def openElement (path : List String) (key : String) (es : Entries) : Option Entries :=
  descend .implied (fun _ es =>
    es.alter key fun
      | none => some (.tables [[]])
      | some (.tables ts) => some (.tables (ts ++ [[]]))
      | some _ => none) path .header es

end Entries

/-- A statement of a document. Paths are given without their last key. -/
inductive Statement
  | openTable (path : List String) (key : String)
  | openElement (path : List String) (key : String)
  | assign (path : List String) (key : String) (value : Value)
  deriving Repr

/-- A document under construction: its entries and the path of the open table. -/
structure Draft where
  entries : Entries := []
  openPath : List String := []
  deriving Repr

namespace Draft

/-- Carries out one statement. -/
def run (d : Draft) : Statement → Option Draft
  | .openTable path key =>
    (d.entries.openTable path key).map fun entries => ⟨entries, path ++ [key]⟩
  | .openElement path key =>
    (d.entries.openElement path key).map fun entries => ⟨entries, path ++ [key]⟩
  | .assign path key value =>
    (Entries.descend .implied (fun _ es => es.assign path key value) d.openPath .header
      d.entries).map fun entries => { d with entries }

/-- The document of a list of statements, unless two of them contradict each other. -/
def ofStatements? (statements : List Statement) : Option Entries :=
  (statements.foldlM run {}).map (·.entries)

end Draft

end IngressGate.Toml
