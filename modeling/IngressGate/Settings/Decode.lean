import IngressGate.Settings
import IngressGate.Text.Quoted
import IngressGate.Toml.Grammar
/-!
# Reading settings

Decodes a document into settings. A table may also be written as an array that lists its fields in
order. Keys that no field has are ignored; of several mistakes the first in the order of the
document is the error, and a missing field comes after all of them.
-/
namespace IngressGate

/-- Why a document is not a settings file. -/
inductive SchemaError
  | missingField (name : String)
  | invalidType (found expected : String)
  | invalidValue (found expected : String)
  | tooShort (length : Nat) (expected : String)
  | unknownVariant (name : String) (variants : List String)
  | badAddress
  | badVariantShape (problem : String)
  deriving DecidableEq, Repr

namespace SchemaError

/-- A name between backquotes. -/
def tick (s : String) : String := "`" ++ s ++ "`"

/-- The names of the allowed variants. -/
def variantsText : List String → String
  | [a, b] => tick a ++ " or " ++ tick b
  | vs => "one of " ++ ", ".intercalate (vs.map tick)

/-- The wording of the error. -/
def message : SchemaError → String
  | missingField name => "missing field " ++ tick name
  | invalidType found expected => s!"invalid type: {found}, expected {expected}"
  | invalidValue found expected => s!"invalid value: {found}, expected {expected}"
  | tooShort length expected => s!"invalid length {length}, expected {expected}"
  | unknownVariant name variants =>
    "unknown variant " ++ tick name ++ ", expected " ++ variantsText variants
  | badAddress => "invalid IP address syntax"
  | badVariantShape problem => problem

end SchemaError

/-- Why a text is not a settings file. -/
inductive SettingsError
  /-- The text is not a document. -/
  | syntactic
  | schema (error : SchemaError)
  deriving DecidableEq, Repr

namespace Settings.Decode

open Toml (Value Entries)

/-- What a value turns out to be, for a message about its type. -/
def found : Value → String
  | .string s => "string " ++ Text.quoted s
  | .integer n => "integer " ++ SchemaError.tick (toString n)
  | .real r => "floating point " ++ SchemaError.tick r.text
  | .boolean b => "boolean " ++ SchemaError.tick (toString b)
  | .datetime => "map"
  | .array _ => "sequence"
  | .tables _ => "sequence"
  | .table _ _ => "map"

/-- The error of a value of the wrong type. -/
def mismatch {α : Type} (v : Value) (expected : String) : Except SchemaError α :=
  .error (.invalidType (found v) expected)

/-- The items of an array, of either form. -/
def items? : Value → Option (List Value)
  | .array vs => some vs
  | .tables ts => some (ts.map (.table .header))
  | _ => none

/-- The entries of a table; a date counts as a table without fields of interest. -/
def entries? : Value → Option Entries
  | .table _ es => some es
  | .datetime => some []
  | _ => none

/-- Decodes a string. -/
def string (v : Value) : Except SchemaError String :=
  match v with
  | .string s => .ok s
  | _ => mismatch v "a string"

/-- Decodes a whole number below `bound`, of a type called `name`. -/
def natBelow (bound : Nat) (name : String) (v : Value) : Except SchemaError Nat :=
  match v with
  | .integer n =>
    if 0 ≤ n ∧ n < bound then .ok n.toNat else .error (.invalidValue (found v) name)
  | _ => mismatch v name

/-- Decodes a 16-bit number. -/
def u16 (v : Value) : Except SchemaError UInt16 := (natBelow UInt16.size "u16" v).map UInt16.ofNat

/-- Decodes a 32-bit number. -/
def u32 (v : Value) : Except SchemaError UInt32 := (natBelow UInt32.size "u32" v).map UInt32.ofNat

/-- Decodes a size. -/
def size (v : Value) : Except SchemaError Nat := natBelow UInt64.size "usize" v

/-- Decodes an address. -/
def address (v : Value) : Except SchemaError Address :=
  match v with
  | .string s =>
    match Address.ofText? s with
    | some a => .ok a
    | none => .error .badAddress
  | _ => mismatch v "IP address"

/-- Decodes a list. -/
def list {α : Type} (item : Value → Except SchemaError α) (v : Value) :
    Except SchemaError (List α) :=
  match items? v with
  | some vs => vs.mapM item
  | none => mismatch v "a sequence"

/-- Decodes the name of a variant. -/
def variantName {α : Type} (variants : List (String × α)) (name : String) : Except SchemaError α :=
  match variants.find? (·.1 = name) with
  | some (_, a) => .ok a
  | none => .error (.unknownVariant name (variants.map (·.1)))

/-- Checks that nothing comes with a variant. An array of inline values is asked for as a table is;
only an array made of headed tables is asked for as an array. -/
def noContent : Value → Except SchemaError Unit
  | .array [] | .tables [] | .table _ [] => .ok ()
  | .tables _ => .error (.badVariantShape "expected empty array")
  | .array _ | .table _ _ => .error (.badVariantShape "expected empty table")
  | .string _ => .error (.badVariantShape "expected table, found string")
  | .integer _ => .error (.badVariantShape "expected table, found integer")
  | .real _ => .error (.badVariantShape "expected table, found float")
  | .boolean _ => .error (.badVariantShape "expected table, found boolean")
  | .datetime => .error (.badVariantShape "expected table, found datetime")

/-- Decodes a variant without content, written as its name or as a table with that one key. -/
def variant {α : Type} (variants : List (String × α)) (v : Value) : Except SchemaError α :=
  match v with
  | .string name => variantName variants name
  | .table _ [] => .error (.badVariantShape "wanted exactly 1 element, found 0 elements")
  | .table _ [(name, content)] => do
    let a ← variantName variants name
    noContent content
    return a
  | .table _ _ => .error (.badVariantShape "wanted exactly 1 element, more than 1 element")
  | _ => .error (.badVariantShape "wanted string or table")

/-- How a record is decoded: its fields in order, each with its name and the way to set it, and what
is said of an array that ends before field number `n`, if it must not. -/
structure Shape (α : Type) where
  name : String
  fields : List (String × (α → Value → Except SchemaError α))
  needed : List Nat := []

namespace Shape
variable {α : Type}

/-- What is expected of an array that stands for a record. -/
def expectedLength (s : Shape α) : String :=
  s!"struct {s.name} with {s.fields.length} elements"

/-- Sets the fields that the entries of a table name. -/
def ofEntries (s : Shape α) (start : α) (es : Entries) : Except SchemaError α :=
  es.foldlM (fun a (key, v) =>
    match s.fields.find? (·.1 = key) with
    | some (_, set) => set a v
    | none => .ok a) start

/-- Sets the fields from number `i` on from the items of an array; items beyond the last field are
ignored. -/
def ofItems (s : Shape α) :
    (i : Nat) → List (String × (α → Value → Except SchemaError α)) → α → List Value →
      Except SchemaError α
  | _, [], a, _ => .ok a
  | i, _ :: fields, a, [] =>
    if i ∈ s.needed then .error (.tooShort i s.expectedLength) else s.ofItems (i + 1) fields a []
  | i, (_, set) :: fields, a, v :: vs => do s.ofItems (i + 1) fields (← set a v) vs

/-- Decodes a record from a table or an array, on top of the values that missing fields have. -/
def decode (s : Shape α) (start : α) (v : Value) : Except SchemaError α :=
  match entries? v, items? v with
  | some es, _ => s.ofEntries start es
  | none, some vs => s.ofItems 0 s.fields start vs
  | none, none => mismatch v s!"struct {s.name}"

end Shape

/-- The fields of the log settings. -/
def logShape : Shape LogSettings where
  name := "LogConfig"
  fields := [
    ("level", fun s v => return { s with level := some (← string v) }),
    ("format", fun s v => return { s with
      layout := ← variant [("pretty", .pretty), ("compact", .compact), ("json", .json)] v })]

/-- The fields of the classifier settings. -/
def classifierShape : Shape ClassifierSettings where
  name := "ClassifierConfig"
  fields := [
    ("interface", fun s v => return { s with interface := some (← string v) }),
    ("redirect", fun s v => return { s with
      redirect := ← variant [("fixed", .fixed), ("arrival", .arrival)] v }),
    ("redirect_queue", fun s v => return { s with redirectQueue := ← u32 v }),
    ("event_level", fun s v => return { s with eventLevel := some (← string v) }),
    ("event_capacity", fun s v => return { s with eventCapacity := ← size v })]
  needed := [0, 3]

/-- The fields of a rule about an address; the address is there once it has been read. -/
def whitelistShape : Shape (Option Address × List String) where
  name := "WhitelistEntry"
  fields := [
    ("address", fun s v => return (some (← address v), s.2)),
    ("protocols", fun s v => return (s.1, ← list string v))]
  needed := [0]

/-- The fields of a rule about a port; the port is there once it has been read. -/
def portShape : Shape (Option UInt16 × List String) where
  name := "PortRuleConfig"
  fields := [
    ("port", fun s v => return (some (← u16 v), s.2)),
    ("protocols", fun s v => return (s.1, ← list string v))]
  needed := [0]

/-- Decodes a rule about an address. -/
def whitelistEntry (v : Value) : Except SchemaError WhitelistEntry := do
  match ← whitelistShape.decode (none, []) v with
  | (some address, protocols) => return ⟨address, protocols⟩
  | (none, _) => throw (.missingField "address")

/-- Decodes a rule about a port. -/
def portEntry (v : Value) : Except SchemaError PortEntry := do
  match ← portShape.decode (none, []) v with
  | (some port, protocols) => return ⟨port, protocols⟩
  | (none, _) => throw (.missingField "port")

/-- The fields of the whole file. -/
def settingsShape : Shape Settings where
  name := "Config"
  fields := [
    ("logging", fun s v => return { s with logging := ← logShape.decode {} v }),
    ("classifier", fun s v => return { s with classifier := ← classifierShape.decode {} v }),
    ("whitelist", fun s v => return { s with whitelist := ← list whitelistEntry v }),
    ("ports", fun s v => return { s with ports := ← list portEntry v })]

end Settings.Decode

/-- The settings that a text writes. -/
def Settings.ofText (text : String) : Except SettingsError Settings :=
  match Toml.parse? text with
  | none => .error .syntactic
  | some es =>
    match Settings.Decode.settingsShape.ofEntries {} es with
    | .ok s => .ok s
    | .error e => .error (.schema e)

end IngressGate
