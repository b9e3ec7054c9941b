import IngressGate.Log.Filter
import IngressGate.Settings
import IngressGate.Text.Quoted
/-!
# Where the log goes

A sink has a filter and a layout. It is set up once, from the filter text of the environment if
there is one and else from the settings; a second set-up changes nothing. Lines are given without
the time stamp.
-/
namespace IngressGate.Log

/-- How a value is written in a text line. -/
def Value.shown : Value → String
  | number n => toString n
  | plain s => s
  | name s => Text.quoted s

/-- An escape for what could command a terminal: some control characters of ASCII and all beyond. -/
def harmless (c : Char) : String :=
  let n := c.toNat
  if n = 0x1B ∨ n = 7 ∨ n = 8 ∨ n = 0x0C ∨ n = 0x7F then "\\x" ++ Text.hexPadded 2 n
  else if 0x80 ≤ n ∧ n ≤ 0x9F then "\\u\x7b" ++ Text.hex n ++ "\x7d"
  else c.toString

/-- The plain text of an entry: severity, target, message and fields. -/
def Entry.line (e : Entry) : String :=
  let message := String.join (e.message.toList.map harmless)
  let fields := e.fields.map fun f => f.1 ++ "=" ++ f.2.shown
  e.severity.name ++ " " ++ e.target ++ ": " ++ " ".intercalate (message :: fields)

/-- How a character is written inside a JSON string. -/
def jsonChar (c : Char) : String :=
  if c = '"' then "\\\""
  else if c = '\\' then "\\\\"
  else if c = '\n' then "\\n"
  else if c = '\r' then "\\r"
  else if c = '\t' then "\\t"
  else if c.toNat = 8 then "\\b"
  else if c.toNat = 0x0C then "\\f"
  else if c.toNat < 0x20 then "\\u" ++ Text.hexPadded 4 c.toNat
  else c.toString

/-- A JSON string. -/
def jsonString (s : String) : String := "\"" ++ String.join (s.toList.map jsonChar) ++ "\""

/-- A JSON object with the given members, each value already written. -/
def jsonObject (members : List (String × String)) : String :=
  "\x7b" ++ ",".intercalate (members.map fun m => jsonString m.1 ++ ":" ++ m.2) ++ "\x7d"

/-- How a value is written in JSON. -/
def Value.json : Value → String
  | number n => toString n
  | plain s => jsonString s
  | name s => jsonString s

/-- The text of an entry in JSON. -/
def Entry.json (e : Entry) : String :=
  jsonObject [
    ("level", jsonString e.severity.name),
    ("fields", jsonObject
      (("message", jsonString e.message) :: e.fields.map fun f => (f.1, f.2.json))),
    ("target", jsonString e.target)]

/-- A place that log entries are written to. -/
structure Sink where
  filter : Filter
  layout : LogLayout
  deriving DecidableEq, Repr

namespace Sink

/-- The filter of the log settings: the level they name, or that of information. -/
def filterOf (s : Option LogSettings) : Filter :=
  .upTo ((s.bind fun s => s.level.bind levelOfText?).getD .info)

/-- The sink for the given settings and filter text of the environment, and the complaints about the
latter. -/
def setUp (environment : Option String) (s : Option LogSettings) : Sink × List String :=
  let layout := (s.map (·.layout)).getD .pretty
  match environment with
  | some text => let (filter, complaints) := Filter.ofText text; (⟨filter, layout⟩, complaints)
  | none => (⟨filterOf s, layout⟩, [])

/-- The text of an entry, unless the filter keeps it back. -/
def text? (k : Sink) (e : Entry) : Option String :=
  if k.filter.admits e then
    match k.layout with
    | .json => some e.json
    | .pretty | .compact => some e.line
  else none

/-- The texts of several entries. -/
def texts (k : Sink) (es : List Entry) : List String := es.filterMap k.text?

end Sink

end IngressGate.Log
