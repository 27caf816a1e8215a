import LineTally.Command.Help
import LineTally.Count
import LineTally.Failure

/-!
# What the command comes to

The command writes to the output, to the error output and to the log, and ends with a code.
-/

namespace LineTally.Command

/-- What the command has written. -/
structure Console where
  output : String := ""
  errors : String := ""
  log : List LogLine := []
  deriving DecidableEq, Repr

instance : Append Console where
  append earlier later := {
    output := earlier.output ++ later.output
    errors := earlier.errors ++ later.errors
    log := earlier.log ++ later.log }

/-- What the command has written when it ends, and how it ends. -/
structure Outcome where
  console : Console
  code : Nat
  deriving DecidableEq, Repr

/-- The code of a request that could not be carried out. -/
def failureCode : Nat := 1

/-- The code of arguments that cannot be understood. -/
def misuseCode : Nat := 2

/-- The code of a scan whose source failed. -/
def sourceFailureCode : Nat := 2

/-- The code of a fault of the program itself. -/
def faultCode : Nat := 101

/-- The code of a scan that was interrupted. -/
def interruptionCode : Nat := 130

/-- Causes behind an error, each with its number. -/
def numberedCauses (causes : List String) : String :=
  String.join (causes.zipIdx.map fun (cause, index) => s!"    {index}: {cause}\n")

/-- The report of an error: what was attempted, and what was behind its failure. -/
def errorText (context : String) (causes : List String) : String :=
  let behind := match causes with
    | [] => ""
    | [cause] => s!"\nCaused by:\n    {cause}\n"
    | causes => "\nCaused by:\n" ++ numberedCauses causes
  s!"Error: {context}\n" ++ behind

/-- The command could not do what was asked. -/
def Outcome.failed (context : String) (causes : List String) : Outcome :=
  { console := { errors := errorText context causes }, code := failureCode }

/-- The program itself is at fault. -/
def Outcome.ofFault (fault : Fault) : Outcome :=
  { console := { errors := fault.message ++ "\n" }, code := faultCode }

/-- The command did what was asked by writing something. -/
def Outcome.written (output : String) : Outcome :=
  { console := { output }, code := 0 }

/-- The outcome behind what was written before. -/
def Outcome.behind (outcome : Outcome) (earlier : Console) : Outcome :=
  { outcome with console := earlier ++ outcome.console }

/-- What the command comes to if nothing is to be done. -/
def Stop.outcome : Stop → Outcome
  | help topic => .written topic.text
  | version => .written versionText
  | misuse reason => {
      console := { errors := s!"error: {reason.message}\n\nUsage: {Topic.command.usage}\n" }
      code := misuseCode }

end LineTally.Command
