/-!
# Arguments that are no request

Arguments may ask for help or for the version instead of asking for something to be done, or they
may not be understood.
-/

namespace LineTally.Command

/-- What help can be asked about. -/
inductive Topic where
  /-- The whole command. -/
  | command
  /-- The subcommand that scans. -/
  | scan
  /-- The subcommand that shows the settings. -/
  | config
  /-- The subcommand that gives help. -/
  | help
  deriving DecidableEq, Repr

/-- Why arguments cannot be understood. -/
inductive Misuse where
  /-- There is no such option. -/
  | unknown (argument : String)
  /-- An option was given twice. -/
  | repeated (option : String)
  /-- An option lacks its value. -/
  | valueMissing (option : String)
  /-- A value was given to an option that has none. -/
  | valueNeedless (option : String)
  /-- A value is not one that the option can have. -/
  | badValue (option value : String)
  /-- There are too many arguments. -/
  | superfluous (argument : String)
  /-- There is no term to search for. -/
  | termMissing
  /-- There is no such subcommand. -/
  | noSubcommand (name : String)
  deriving DecidableEq, Repr

/-- The text by which a misuse is reported. -/
def Misuse.message : Misuse → String
  | unknown argument => s!"unexpected argument '{argument}' found"
  | repeated option => s!"the argument '{option}' cannot be used multiple times"
  | valueMissing option => s!"a value is required for '{option}' but none was supplied"
  | valueNeedless option => s!"unexpected value for '{option}' found; no more were expected"
  | badValue option value => s!"invalid value '{value}' for '{option}'"
  | superfluous argument => s!"unexpected argument '{argument}' found"
  | termMissing => "the following required arguments were not provided: <TERM>"
  | noSubcommand name => s!"unrecognized subcommand '{name}'"

/-- Why arguments are no request. -/
inductive Stop where
  /-- They ask for help. -/
  | help (topic : Topic)
  /-- They ask for the version. -/
  | version
  /-- They cannot be understood. -/
  | misuse (reason : Misuse)
  deriving DecidableEq, Repr

end LineTally.Command
