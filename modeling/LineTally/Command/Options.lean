import LineTally.Count

/-!
# Options of the command

The options of the command, and what can be asked of it.
-/

namespace LineTally.Command

/-- The forms in which the result of a scan can be shown. -/
inductive Format where
  /-- The total, and a line for every worker. -/
  | plain
  /-- JSON. -/
  | json
  /-- A form with more words. -/
  | pretty
  deriving DecidableEq, Repr

/-- The form of some name, if there is one. -/
def Format.ofName? : String → Option Format
  | "plain" => some plain
  | "json" => some json
  | "pretty" => some pretty
  | _ => none

/-- The form that a name in the settings stands for; an unknown name stands for the plain form. -/
def Format.ofSetting (name : String) : Format :=
  (ofName? name).getD plain

/-- The options that were given. -/
structure Options where
  /-- The number of lines that may wait in the queue. -/
  capacity : Option Count := none
  /-- The number of workers. -/
  workers : Option Count := none
  /-- The form of the result. -/
  format : Option Format := none
  /-- The file of settings. -/
  config : Option String := none
  /-- Case is to be ignored. -/
  ignoreCase : Bool := false
  /-- The workers are not to be shown one by one. -/
  totalOnly : Bool := false
  /-- The whole log is to be shown. -/
  verbose : Bool := false
  deriving DecidableEq, Repr

/-- Options together with others, which count where both were given. -/
def Options.overriddenBy (options others : Options) : Options where
  capacity := others.capacity <|> options.capacity
  workers := others.workers <|> options.workers
  format := others.format <|> options.format
  config := others.config <|> options.config
  ignoreCase := options.ignoreCase || others.ignoreCase
  totalOnly := options.totalOnly || others.totalOnly
  verbose := options.verbose || others.verbose

/-- What the command is to do. -/
inductive Job where
  /-- Say how it is used, since it was not told what to do. -/
  | explain
  /-- Show the settings. -/
  | showSettings
  /-- Count the lines with a term in a file, or in what comes in. -/
  | scan (term : String) (file : Option String)
  deriving DecidableEq, Repr

/-- What is asked of the command. -/
structure Request where
  options : Options
  job : Job
  deriving DecidableEq, Repr

end LineTally.Command
