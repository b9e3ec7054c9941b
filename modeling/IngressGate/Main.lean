import IngressGate.Cli.Program
/-!
# The command line program

Everything but the world itself is in `Cli.outcome`. This build has no packet sockets: opening an
interface is refused.
-/
namespace IngressGate

/-- The error of a host operation. -/
def IoError.ofHost : IO.Error → IoError
  | .noFileOrDirectory .. => .notFound
  | .noSuchThing .. => .notFound
  | .permissionDenied .. => .other "Permission denied (os error 13)"
  | .inappropriateType _ 20 _ => .notDirectory
  | .inappropriateType .. => .isDirectory
  | .invalidArgument _ 36 _ => .nameTooLong
  | e => .other (toString e)

/-- The content of a file. -/
def readContent (path : String) : IO (Except IoError ByteArray) := do
  try
    return .ok (← IO.FS.readBinFile path)
  catch e =>
    return .error (.ofHost e)

/-- The file that a command reads. -/
def Cli.Command.path : Cli.Command → String
  | run path _ => path
  | validate path => path
  | check path _ _ _ => path

/-- Writes what a command came to and gives its exit code. -/
def report (o : Cli.Outcome) : IO UInt32 := do
  for line in o.transcript.output do
    IO.println line
  for line in o.transcript.errors do
    IO.eprintln line
  return o.exitCode.toUInt32

end IngressGate

open IngressGate in
/-- Runs the program. -/
def main (arguments : List String) : IO UInt32 := do
  let filterText ← IO.getEnv "RUST_LOG"
  let content ← match Cli.Request.ofArguments arguments with
    | .ok (.perform command) => readContent command.path
    | _ => pure (.error .notFound)
  report (Cli.outcome
    { content := fun _ => content
      filterText
      capture := fun _ => .error (.io .notPermitted) } arguments)
