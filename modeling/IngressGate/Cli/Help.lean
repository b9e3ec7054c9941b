import IngressGate.Cli.Arguments
/-!
# Help

What the program says about its own use, and about a use that makes no sense.
-/
namespace IngressGate.Cli

/-- A table in two columns: each line is indented by two blanks, and the left column is as wide as
its longest entry. -/
def columns (rows : List (String × String)) : List String :=
  let width := rows.foldl (fun n row => max n row.1.length) 0
  rows.map fun (left, right) => "  " ++ left.pushn ' ' (width - left.length) ++ "  " ++ right

namespace Verb

/-- What a command does. -/
def about : Verb → String
  | run => "Classify live traffic in shadow mode"
  | validate => "Validate config.toml"
  | check => "Print the verdict for a synthetic frame"

/-- How a command is written. -/
def usage : Verb → String
  | run => "Usage: xdpgate run [OPTIONS]"
  | validate => "Usage: xdpgate validate [OPTIONS]"
  | check => "Usage: xdpgate check [OPTIONS] --src <SRC>"

end Verb

namespace Flag

/-- How an option is written. -/
def form : Flag → String
  | config => "-c, --config <CONFIG>"
  | interface => "-i, --interface <INTERFACE>"
  | source => "    --src <SRC>"
  | port => "    --dst-port <DST_PORT>"
  | sample => "    --protocol <PROTOCOL>"

/-- What an option is for. -/
def about : Flag → String
  | config => "Path to config.toml [default: config.toml]"
  | interface => "Interface to capture on (overrides classifier.interface)"
  | source => "Source address of the frame"
  | port => "Destination port (ignored for ICMP) [default: 0]"
  | sample => "[default: tcp] [possible values: tcp, udp, icmp, icmpv6]"

end Flag

/-- The entry of the command `help` in the list of commands. -/
def helpAbout : String := "Print this message or the help of the given subcommand(s)"

/-- How the program is used. -/
def programUsage : String := "Usage: xdpgate <COMMAND>"

/-- The overview of the program. -/
def overviewLines : List String :=
  ["Early-ingress packet classifier with whitelist policies", "", programUsage, "", "Commands:"] ++
    columns (([.run, .validate, .check].map fun v : Verb => (v.name, v.about)) ++
      [("help", helpAbout)]) ++
    ["", "Options:"] ++ columns [("-h, --help", "Print help")]

/-- The description of a command. -/
def Verb.lines (v : Verb) : List String :=
  [v.about, "", v.usage, "", "Options:"] ++
    columns ((v.flags.map fun f => (f.form, f.about)) ++ [("-h, --help", "Print help")])

/-- The description of the command `help`. -/
def helpLines : List String :=
  [helpAbout, "", "Usage: xdpgate help [COMMAND]...", "", "Arguments:"] ++
    columns [("[COMMAND]...", "Print help for the subcommand(s)")]

namespace UsageError

/-- What is wrong, in a few words. -/
def reason : UsageError → String
  | noCommand => "a subcommand is required but was not provided"
  | unknownCommand argument => s!"unrecognized subcommand '{argument}'"
  | unexpected argument => s!"unexpected argument '{argument}' found"
  | noValue flag => s!"a value is required for '--{flag.long}' but none was supplied"
  | badValue flag value => s!"invalid value '{value}' for '--{flag.long}'"
  | repeated flag => s!"the argument '--{flag.long}' cannot be used multiple times"
  | missing flag => s!"the required argument '--{flag.long}' was not provided"

/-- The lines that report the error. Without any command they are the overview. -/
def lines : UsageError → List String
  | noCommand => overviewLines
  | e => ["error: " ++ e.reason, "", programUsage, "", "For more information, try '--help'."]

end UsageError

end IngressGate.Cli
