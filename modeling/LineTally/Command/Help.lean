import LineTally.Command.Misuse

/-!
# Help for the command

What the command says about itself.
-/

namespace LineTally.Command

/-- The name of the command. -/
def name : String := "linehunt"

/-- The version of the command. -/
def versionText : String := name ++ " 0.1.0\n"

/-- What the command or a subcommand does, in one line. -/
def Topic.about : Topic → String
  | command => "Count matching lines with a pool of worker threads"
  | scan => "Count lines containing TERM (default command)"
  | config => "Print the effective configuration as TOML"
  | help => "Print this message or the help of the given subcommand(s)"

/-- How the command or a subcommand is called. -/
def Topic.usage : Topic → String
  | command => s!"{name} [OPTIONS] [TERM] [FILE] [COMMAND]"
  | scan => s!"{name} scan [OPTIONS] <TERM> [FILE]"
  | config => s!"{name} config [OPTIONS]"
  | help => s!"{name} help [COMMAND]"

/-- The subcommands, with what they do. -/
def subcommandLines : List String := [
  "  scan    " ++ Topic.scan.about,
  "  config  " ++ Topic.config.about,
  "  help    " ++ Topic.help.about]

/-- The options, with what they do. -/
def optionLines : List String := [
  "  -c, --capacity <CAPACITY>  Queue capacity in lines",
  "  -w, --workers <WORKERS>    Number of worker threads",
  "  -i, --ignore-case          Match case-insensitively",
  "  -q, --total-only           Print only the total, without the per-worker breakdown",
  "      --config <CONFIG>      Config file",
  "  -f, --format <FORMAT>      Output format: plain, json, pretty",
  "  -v, --verbose              Verbose output",
  "  -h, --help                 Print help"]

/-- The help about a topic. -/
def Topic.text (topic : Topic) : String :=
  let heading := [topic.about, "", "Usage: " ++ topic.usage]
  let subcommands := if topic = .command then "" :: "Commands:" :: subcommandLines else []
  let options := if topic = .help then [] else "" :: "Options:" :: optionLines
  String.intercalate "\n" (heading ++ subcommands ++ options) ++ "\n"

end LineTally.Command
