import IngressGate.Address.Text
import IngressGate.Cli.Sample
import IngressGate.Log.Level
/-!
# Command lines

`Request.ofArguments` reads the arguments of the program: a command, and options of that command in
any order, each at most once. The value of an option follows it as the next argument, unless that
looks like an option itself, or behind an equals sign; behind a one-letter option it may follow at
once. Arguments are read from the left, and a request for help ends the reading.
-/
namespace IngressGate.Cli

/-- The commands. -/
inductive Verb
  | run
  | validate
  | check
  deriving DecidableEq, Repr

/-- The options that take a value. -/
inductive Flag
  | config
  | interface
  | source
  | port
  | sample
  deriving DecidableEq, Repr

/-- What is wrong with a command line. -/
inductive UsageError
  | noCommand
  | unknownCommand (argument : String)
  | unexpected (argument : String)
  | noValue (flag : Flag)
  | badValue (flag : Flag) (value : String)
  | repeated (flag : Flag)
  | missing (flag : Flag)
  deriving DecidableEq, Repr

namespace Verb

/-- The name of a command. -/
def name : Verb → String
  | run => "run"
  | validate => "validate"
  | check => "check"

/-- The command of a name. -/
def ofName? (name : String) : Option Verb := [run, validate, check].find? (·.name = name)

/-- The options of a command. -/
def flags : Verb → List Flag
  | run => [.config, .interface]
  | validate => [.config]
  | check => [.config, .source, .port, .sample]

end Verb

namespace Flag

/-- The long name of an option. -/
def long : Flag → String
  | config => "config"
  | interface => "interface"
  | source => "src"
  | port => "dst-port"
  | sample => "protocol"

/-- The letter of an option. -/
def letter? : Flag → Option Char
  | config => some 'c'
  | interface => some 'i'
  | source | port | sample => none

end Flag

/-- The values of options. -/
structure Options where
  config : Option String := none
  interface : Option String := none
  source : Option Address := none
  port : Option UInt16 := none
  sample : Option Sample := none
  deriving DecidableEq, Repr

namespace Options

/-- The port that a text stands for: a decimal number up to 65535, perhaps with a sign. -/
def portOfText? (s : String) : Option UInt16 :=
  let number? :=
    if s.toList.head? = some '-' then
      let digits := s.toList.tail
      if digits.head?.any Char.isDigit ∧ Log.natOfText? (String.ofList digits) = some 0 then some 0
      else none
    else Log.natOfText? s
  match number? with
  | some n => if n < 65536 then some (UInt16.ofNat n) else none
  | none => none

/-- Puts a value into a place that has none yet. -/
def fill {α : Type} (flag : Flag) (place value : Option α) (text : String) :
    Except UsageError (Option α) :=
  match value, place with
  | none, _ => .error (.badValue flag text)
  | some _, some _ => .error (.repeated flag)
  | some v, none => .ok (some v)

/-- Sets the value of an option. -/
def set (o : Options) (flag : Flag) (text : String) : Except UsageError Options :=
  match flag with
  | .config =>
    return { o with config := ← fill flag o.config (if text = "" then none else some text) text }
  | .interface => return { o with interface := ← fill flag o.interface (some text) text }
  | .source => return { o with source := ← fill flag o.source (Address.ofText? text) text }
  | .port => return { o with port := ← fill flag o.port (portOfText? text) text }
  | .sample => return { o with sample := ← fill flag o.sample (Sample.ofName? text) text }

end Options

/-- What an argument looks like. -/
inductive Shape
  /-- `--name`, or `--name=value`. -/
  | long (name : String) (value : Option String)
  /-- A dash and letters. -/
  | letters (letter : Char) (rest : List Char)
  /-- `--` alone. -/
  | escape
  /-- Anything else. -/
  | plain
  deriving DecidableEq, Repr

/-- The shape of a long option; `cs` is what follows the two dashes. -/
def Shape.ofLong (cs : List Char) : Shape :=
  let name := cs.takeWhile (· ≠ '=')
  .long (String.ofList name)
    (match cs.drop name.length with
      | [] => none
      | _ :: value => some (String.ofList value))

/-- The shape of an argument. -/
def Shape.ofText (argument : String) : Shape :=
  match argument.toList with
  | ['-', '-'] => .escape
  | '-' :: '-' :: cs => .ofLong cs
  | '-' :: c :: cs => .letters c cs
  | _ => .plain

/-- Why the reading of options ends early. -/
inductive Halt
  | help
  | misuse (error : UsageError)
  deriving DecidableEq, Repr

/-- What has been read of the options of a command: an option that still lacks its value, and
whether `--` has ruled out further options. -/
structure Progress where
  options : Options := {}
  pending : Option Flag := none
  escaped : Bool := false
  deriving DecidableEq, Repr

namespace Progress

/-- Sets the value of an option. -/
def set (p : Progress) (flag : Flag) (text : String) : Except Halt Progress :=
  match p.options.set flag text with
  | .ok options => .ok { p with options, pending := none }
  | .error e => .error (.misuse e)

/-- Reads an option given by its letter; `rest` is what follows the letter. -/
def readLetter (v : Verb) (p : Progress) (argument : String) (letter : Char) (rest : List Char) :
    Except Halt Progress :=
  match v.flags.find? (·.letter? = some letter) with
  | some flag =>
    match rest with
    | [] => .ok { p with pending := some flag }
    | '=' :: value => p.set flag (String.ofList value)
    | value => p.set flag (String.ofList value)
  | none => .error (if letter = 'h' then .help else .misuse (.unexpected argument))

/-- Reads an option given by its long name. -/
def readLong (v : Verb) (p : Progress) (argument name : String) (value : Option String) :
    Except Halt Progress :=
  match v.flags.find? (·.long = name), value with
  | some flag, some text => p.set flag text
  | some flag, none => .ok { p with pending := some flag }
  | none, none => .error (if name = "help" then .help else .misuse (.unexpected argument))
  | none, some _ => .error (.misuse (.unexpected argument))

/-- Reads one more argument. -/
def read (v : Verb) (p : Progress) (argument : String) : Except Halt Progress :=
  if p.escaped then .error (.misuse (.unexpected argument))
  else
    match p.pending, Shape.ofText argument with
    | some flag, .plain => p.set flag argument
    | some flag, _ => .error (.misuse (.noValue flag))
    | none, .plain => .error (.misuse (.unexpected argument))
    | none, .escape => .ok { p with escaped := true }
    | none, .letters letter rest => p.readLetter v argument letter rest
    | none, .long name value => p.readLong v argument name value

end Progress

/-- What the program is to do. -/
inductive Command
  /-- Classify what an interface receives. -/
  | run (config : String) (interface : Option String)
  /-- Review the settings. -/
  | validate (config : String)
  /-- Show the verdict on a sample frame. -/
  | check (config : String) (source : Address) (port : UInt16) (sample : Sample)
  deriving DecidableEq, Repr

/-- A command line that makes sense: a command, or a question about the program, about one of its
commands or about asking. -/
inductive Request
  | perform (command : Command)
  | overview
  | explain (verb : Verb)
  | explainHelp
  deriving DecidableEq, Repr

/-- The command with the given options. -/
def Command.ofOptions (v : Verb) (o : Options) : Except UsageError Command :=
  let config := o.config.getD "config.toml"
  match v with
  | .run => .ok (.run config o.interface)
  | .validate => .ok (.validate config)
  | .check =>
    match o.source with
    | some source => .ok (.check config source (o.port.getD 0) (o.sample.getD .tcp))
    | none => .error (.missing .source)

namespace Request

/-- Reads the arguments of a command. -/
def ofOptions (v : Verb) (arguments : List String) : Except UsageError Request :=
  match arguments.foldlM (Progress.read v) {} with
  | .error .help => .ok (.explain v)
  | .error (.misuse e) => .error e
  | .ok p =>
    match p.pending with
    | some flag => .error (.noValue flag)
    | none => (Command.ofOptions v p.options).map .perform

/-- Reads what follows the command `help`. -/
def ofTopic : List String → Except UsageError Request
  | [] => .ok .overview
  | ["help"] => .ok .explainHelp
  | "help" :: argument :: _ => .error (.unknownCommand argument)
  | name :: rest =>
    match Verb.ofName? name, rest with
    | none, _ => .error (.unknownCommand name)
    | some v, [] => .ok (.explain v)
    | some _, argument :: _ => .error (.unknownCommand argument)

/-- Reads the arguments of the program. -/
def ofArguments : List String → Except UsageError Request
  | [] => .error .noCommand
  | "help" :: rest => ofTopic rest
  | argument :: rest =>
    match Verb.ofName? argument, Shape.ofText argument with
    | some v, _ => ofOptions v rest
    | none, .long "help" none => .ok .overview
    | none, .letters 'h' _ => .ok .overview
    | none, .escape => .error .noCommand
    | none, .plain => .error (.unknownCommand argument)
    | none, _ => .error (.unexpected argument)

end Request

end IngressGate.Cli
