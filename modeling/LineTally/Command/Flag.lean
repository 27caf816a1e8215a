import LineTally.Command.Misuse

/-!
# Names of options and subcommands

Every option has a word and most have a letter.  The version can only be asked of the whole command,
so its option is unknown behind the name of a subcommand.
-/

namespace LineTally.Command

/-- Options without a value. -/
inductive Switch where
  | ignoreCase
  | totalOnly
  | verbose
  deriving DecidableEq, Repr

/-- Options with a value. -/
inductive Setting where
  | capacity
  | workers
  | format
  | config
  deriving DecidableEq, Repr

/-- All options. -/
inductive Flag where
  | switch (switch : Switch)
  | setting (setting : Setting)
  | help
  | version
  deriving DecidableEq, Repr

/-- The name of an option in messages. -/
def Switch.label : Switch → String
  | ignoreCase => "--ignore-case"
  | totalOnly => "--total-only"
  | verbose => "--verbose"

/-- The name of an option in messages. -/
def Setting.label : Setting → String
  | capacity => "--capacity <CAPACITY>"
  | workers => "--workers <WORKERS>"
  | format => "--format <FORMAT>"
  | config => "--config <CONFIG>"

/-- The name of an option in messages. -/
def Flag.label : Flag → String
  | switch name => name.label
  | setting name => name.label
  | help => "--help"
  | version => "--version"

/-- The option of a letter. -/
def Flag.ofLetter? : Char → Option Flag
  | 'c' => some (setting .capacity)
  | 'w' => some (setting .workers)
  | 'f' => some (setting .format)
  | 'i' => some (switch .ignoreCase)
  | 'q' => some (switch .totalOnly)
  | 'v' => some (switch .verbose)
  | 'h' => some help
  | 'V' => some version
  | _ => none

/-- The option of a word. -/
def Flag.ofWord? : String → Option Flag
  | "capacity" => some (setting .capacity)
  | "workers" => some (setting .workers)
  | "format" => some (setting .format)
  | "config" => some (setting .config)
  | "ignore-case" => some (switch .ignoreCase)
  | "total-only" => some (switch .totalOnly)
  | "verbose" => some (switch .verbose)
  | "help" => some help
  | "version" => some version
  | _ => none

/-- What may stand in one part of the arguments: before the name of a subcommand, or behind it. -/
structure Level where
  /-- What help is about there. -/
  topic : Topic
  /-- The number of arguments that are no options. -/
  operands : Nat
  /-- It is the part before the name of a subcommand. -/
  isTop : Bool
  deriving DecidableEq, Repr

/-- The part before the name of a subcommand. -/
def Level.top : Level := { topic := .command, operands := 2, isTop := true }

/-- The part behind the name of the subcommand that scans. -/
def Level.scan : Level := { topic := .scan, operands := 2, isTop := false }

/-- The part behind the name of the subcommand that shows the settings. -/
def Level.config : Level := { topic := .config, operands := 0, isTop := false }

/-- The option of a letter in some part. -/
def Level.letter? (level : Level) (letter : Char) : Option Flag :=
  (Flag.ofLetter? letter).filter fun flag => level.isTop || flag ≠ .version

/-- The option of a word in some part. -/
def Level.word? (level : Level) (word : String) : Option Flag :=
  (Flag.ofWord? word).filter fun flag => level.isTop || flag ≠ .version

/-- The subcommands. -/
inductive Subcommand where
  | scan
  | config
  | help
  deriving DecidableEq, Repr

/-- The subcommand of some name. -/
def Subcommand.ofName? : String → Option Subcommand
  | "scan" => some scan
  | "config" => some config
  | "help" => some help
  | _ => none

end LineTally.Command
