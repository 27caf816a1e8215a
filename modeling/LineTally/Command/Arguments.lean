import LineTally.Command.Flag
import LineTally.Command.Options
import LineTally.Text.Digits

/-!
# Arguments of the command

Arguments are read from left to right.  Options may stand before or behind the name of a subcommand;
those behind it count if both were given.  An option is looked at closely only when the next
argument has shown that nothing more belongs to it, so help that is asked of a subcommand is given
even if the option right before the subcommand has a bad value.
-/

namespace LineTally.Command

/-- An argument that has not been looked at closely. -/
inductive Pending where
  /-- An option, with its value if that was given. -/
  | option (setting : Setting) (value : Option String)
  /-- An argument that is no option. -/
  | operand (text : String)
  deriving DecidableEq, Repr

/-- What is known of one part of the arguments. -/
structure Part where
  /-- The options. -/
  options : Options := {}
  /-- The arguments that are no options. -/
  operands : List String := []
  /-- The argument that is still to be looked at. -/
  pending : Option Pending := none
  /-- Two hyphens have ended the options. -/
  literal : Bool := false
  deriving DecidableEq, Repr

/-- A count in decimal digits, with or without a plus sign. -/
def readCount? (text : List Char) : Option Count :=
  let digits := match text with
    | '+' :: rest => rest
    | _ => text
  if digits.isEmpty || !digits.all Char.isDigit then none
  else Count.ofNat? (Text.ofDigits digits)

/-- Gives an option its value. -/
def Options.give (options : Options) (setting : Setting) (text : String) : Except Misuse Options :=
  let bad : Except Misuse Options := .error (.badValue setting.label text)
  let repeated : Except Misuse Options := .error (.repeated setting.label)
  match setting with
  | .capacity =>
    if options.capacity.isSome then repeated
    else match readCount? text.toList with
      | some count => .ok { options with capacity := some count }
      | none => bad
  | .workers =>
    if options.workers.isSome then repeated
    else match readCount? text.toList with
      | some count => .ok { options with workers := some count }
      | none => bad
  | .format =>
    if options.format.isSome then repeated
    else match Format.ofName? text with
      | some format => .ok { options with format := some format }
      | none => bad
  | .config =>
    if options.config.isSome then repeated
    else if text.isEmpty then bad
    else .ok { options with config := some text }

/-- Sets an option without a value. -/
def Options.raise (options : Options) (switch : Switch) : Except Misuse Options :=
  let repeated : Except Misuse Options := .error (.repeated switch.label)
  match switch with
  | .ignoreCase =>
    if options.ignoreCase then repeated else .ok { options with ignoreCase := true }
  | .totalOnly =>
    if options.totalOnly then repeated else .ok { options with totalOnly := true }
  | .verbose =>
    if options.verbose then repeated else .ok { options with verbose := true }

namespace Part

/-- Looks closely at the argument that is pending. -/
def resolve (part : Part) : Except Misuse Part :=
  match part.pending with
  | none => .ok part
  | some (.option setting none) => .error (.valueMissing setting.label)
  | some (.option setting (some value)) => do
    return { part with options := ← part.options.give setting value, pending := none }
  | some (.operand text) =>
    if part.operands.length = 1 ∧ text.isEmpty then .error (.badValue "[FILE]" text)
    else .ok { part with operands := part.operands ++ [text], pending := none }

/-- Whether the next argument is the value of an option, if it is no option itself. -/
def awaitsValue (part : Part) : Bool :=
  match part.pending with
  | some (.option _ none) => true
  | _ => false

/-- Takes an option, with the value that is joined to it. -/
def takeFlag (level : Level) (part : Part) (flag : Flag) (value : Option String) :
    Except Stop Part :=
  match flag, value with
  | .setting setting, none => do
    let part ← part.resolve.mapError .misuse
    return { part with pending := some (.option setting none) }
  | .setting setting, some value => do
    let part ← part.resolve.mapError .misuse
    return { part with options := ← (part.options.give setting value).mapError .misuse }
  | .switch switch, none => do
    let part ← part.resolve.mapError .misuse
    return { part with options := ← (part.options.raise switch).mapError .misuse }
  | .help, none => do
    let _ ← part.resolve.mapError .misuse
    throw (.help level.topic)
  | .version, none => do
    let _ ← part.resolve.mapError .misuse
    throw .version
  | flag, some _ => .error (.misuse (.valueNeedless flag.label))

/-- Takes an option written as a word, behind its hyphens. -/
def takeWord (level : Level) (part : Part) (text : List Char) : Except Stop Part :=
  let word := String.ofList (text.takeWhile (· ≠ '='))
  let value := match text.dropWhile (· ≠ '=') with
    | [] => none
    | _ :: value => some (String.ofList value)
  match level.word? word with
  | some flag => part.takeFlag level flag value
  | none => .error (.misuse (.unknown ("--" ++ word)))

/-- Takes options written as letters, behind their hyphen.  What follows the letter of an option
with a value is that value. -/
def takeLetters (level : Level) (part : Part) : List Char → Except Stop Part
  | [] => .ok part
  | letter :: rest =>
    match level.letter? letter with
    | none => .error (.misuse (.unknown (String.ofList ['-', letter])))
    | some (.setting setting) =>
      let value := match rest with
        | [] => none
        | '=' :: value => some (String.ofList value)
        | value => some (String.ofList value)
      part.takeFlag level (.setting setting) value
    | some flag => do takeLetters level (← part.takeFlag level flag none) rest

/-- Takes an argument that is no option. -/
def takeOperand (level : Level) (part : Part) (text : String) : Except Stop Part := do
  let part ← part.resolve.mapError .misuse
  if part.operands.length < level.operands then
    return { part with pending := some (.operand text) }
  else throw (.misuse (.superfluous text))

/-- Takes an argument that is neither an option nor the name of a subcommand. -/
def takePlain (level : Level) (part : Part) (text : String) : Except Stop Part :=
  match part.pending with
  | some (.option setting none) =>
    .ok { part with pending := some (.option setting (some text)) }
  | _ => part.takeOperand level text

/-- Takes an argument that is no name of a subcommand. -/
def take (level : Level) (part : Part) (argument : String) : Except Stop Part :=
  if part.literal then part.takeOperand level argument
  else match argument.toList with
    | ['-', '-'] => .ok { part with literal := true }
    | '-' :: '-' :: text => part.takeWord level text
    | '-' :: letter :: rest => part.takeLetters level (letter :: rest)
    | _ => part.takePlain level argument

/-- The subcommand that an argument names. -/
def subcommand? (level : Level) (part : Part) (argument : String) : Option Subcommand :=
  if level.isTop && !part.literal && !part.awaitsValue then Subcommand.ofName? argument else none

/-- Takes arguments up to the name of a subcommand; what is behind it is left. -/
def takeAll (level : Level) (part : Part) :
    List String → Except Stop (Part × Option (Subcommand × List String))
  | [] => .ok (part, none)
  | argument :: rest =>
    match part.subcommand? level argument with
    | some name => .ok (part, some (name, rest))
    | none => do takeAll level (← part.take level argument) rest

end Part

/-- The help that is asked for behind the name of the subcommand for help. -/
def helpOn : List String → Stop
  | [] => .help .command
  | ["scan"] => .help .scan
  | ["config"] => .help .config
  | ["help"] => .help .help
  | "scan" :: name :: _ => .misuse (.noSubcommand name)
  | "config" :: name :: _ => .misuse (.noSubcommand name)
  | "help" :: name :: _ => .misuse (.noSubcommand name)
  | name :: _ => .misuse (.noSubcommand name)

/-- What operands ask for. -/
def Job.ofOperands : List String → Option Job
  | [] => none
  | [term] => some (.scan term none)
  | term :: file :: _ => some (.scan term (some file))

/-- Options with the file of settings that the environment names, unless one was given; an empty
name will not do even then, except where every part of the arguments gave one. -/
def Options.settle (options : Options) (parts : List Part) (fallback : Option String) :
    Except Misuse Options :=
  if fallback = some "" ∧ parts.any (·.options.config.isNone) then
    .error (.badValue Setting.config.label "")
  else .ok { options with config := options.config <|> fallback }

/-- The request of arguments without a subcommand. -/
def requestOfPart (part : Part) (fallback : Option String) : Except Misuse Request := do
  let part ← part.resolve
  let options ← part.options.settle [part] fallback
  return { options, job := (Job.ofOperands part.operands).getD .explain }

/-- The request of arguments with a subcommand, given what stands behind its name. -/
def requestOfParts (top inner : Part) (job : Job) (fallback : Option String) :
    Except Misuse Request := do
  let top ← top.resolve
  let options ← (top.options.overriddenBy inner.options).settle [top, inner] fallback
  return { options, job }

/-- Takes the arguments behind the name of a subcommand. -/
def readInner (level : Level) (arguments : List String) : Except Stop Part := do
  let (part, _) ← Part.takeAll level {} arguments
  part.resolve.mapError .misuse

/-- What arguments ask for; the environment may name a file of settings. -/
def Request.ofArguments (arguments : List String) (fallback : Option String) :
    Except Stop Request := do
  match ← Part.takeAll .top {} arguments with
  | (top, none) => (requestOfPart top fallback).mapError .misuse
  | (_, some (.help, rest)) => throw (helpOn rest)
  | (top, some (.config, rest)) =>
    let inner ← readInner .config rest
    (requestOfParts top inner .showSettings fallback).mapError .misuse
  | (top, some (.scan, rest)) =>
    let inner ← readInner .scan rest
    match Job.ofOperands inner.operands with
    | some job => (requestOfParts top inner job fallback).mapError .misuse
    | none => throw (.misuse .termMissing)

end LineTally.Command
