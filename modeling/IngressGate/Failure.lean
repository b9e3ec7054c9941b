import IngressGate.Settings.Decode
import IngressGate.Targets
/-!
# Failures

Everything that can end an operation on the gate or a command, with the wording of each.
-/
namespace IngressGate

/-- What can go wrong between the program and its host. -/
inductive IoError
  | notFound
  | notPermitted
  | isDirectory
  | notDirectory
  | nameTooLong
  | notUtf8
  | other (text : String)
  deriving DecidableEq, Repr

/-- The wording of the error. -/
def IoError.message : IoError → String
  | notFound => "No such file or directory (os error 2)"
  | notPermitted => "Operation not permitted (os error 1)"
  | isDirectory => "Is a directory (os error 21)"
  | notDirectory => "Not a directory (os error 20)"
  | nameTooLong => "File name too long (os error 36)"
  | notUtf8 => "stream did not contain valid UTF-8"
  | other text => text

/-- What can be wrong with settings that are to be put in force. -/
inductive ConfigError
  | document (error : SettingsError)
  | entry (error : BadEntry)
  | level (error : Level.Unknown)
  | other (text : String)
  deriving DecidableEq, Repr

/-- The wording of an unreadable document. -/
def SettingsError.message : SettingsError → String
  | syntactic => "TOML parse error"
  | schema e => "TOML parse error: " ++ e.message

/-- The wording of the error. -/
def ConfigError.message : ConfigError → String
  | document e => e.message
  | entry e => e.message
  | level e => e.message
  | other text => text

/-- A failure of any kind. -/
inductive Failure
  | io (error : IoError)
  | config (error : ConfigError)
  | header (error : HeaderError)
  | interfaceNotFound (name : String)
  | capacity (error : CapacityExceeded)
  | target (error : TargetError)
  deriving DecidableEq, Repr

/-- The wording of a failure. -/
def Failure.message : Failure → String
  | io e => "I/O error: " ++ e.message
  | config e => "config error: " ++ e.message
  | header e => "parse error: " ++ e.message
  | interfaceNotFound name => s!"interface {name} not found"
  | capacity e => "policy error: " ++ e.message
  | target e => "redirect error: " ++ e.message

/-- The settings in a file with the given content. -/
def Settings.load (content : Except IoError ByteArray) : Except Failure Settings :=
  match content with
  | .error e => .error (.io e)
  | .ok bytes =>
    match String.fromUTF8? bytes with
    | none => .error (.io .notUtf8)
    | some text =>
      match Settings.ofText text with
      | .ok s => .ok s
      | .error e => .error (.config (.document e))

end IngressGate
