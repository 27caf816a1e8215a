import LineTally.Command.Run
import Std.Time.DateTime.Timestamp

/-!
# The command

Everything that the command needs is read first: the environment, files of settings, and the input.
What it comes to is then computed and written.  Interruptions end the process in the usual way.
-/

namespace LineTally.Command

/-- The variables of the environment that matter. -/
def variableNames : List String :=
  [configVariable, debugVariable, "XDG_CONFIG_HOME", "HOME"]

/-- Reads the variables of the environment that matter. -/
def readVariables : IO (List (String × String)) := do
  let found ← variableNames.mapM fun name => do
    return (← IO.getEnv name).map (name, ·)
  return found.filterMap id

/-- The code by which the system says that a path leads to a directory. -/
def directoryCode : UInt32 := 21

/-- What is there under a path that cannot be read. -/
def nodeOfError : IO.Error → Option FileNode
  | .noFileOrDirectory _ _ _ => none
  | .inappropriateType _ code details =>
    if code = directoryCode then some .directory
    else some (.barred { message := s!"{details} (os error {code})" })
  | .permissionDenied _ code details =>
    some (.barred { message := s!"{details} (os error {code})" })
  | error => some (.barred { message := toString error })

/-- Reads what is there under a path. -/
def readNode (path : String) : IO (Option FileNode) := do
  try return some (.file (← IO.FS.readBinFile path).toList)
  catch error => return nodeOfError error

/-- Reads everything that comes in. -/
partial def readInput (input : IO.FS.Stream) (taken : List UInt8) : IO (List UInt8) := do
  let bytes ← input.read 65536
  if bytes.isEmpty then return taken.reverse
  else readInput input (bytes.toList.reverse ++ taken)

/-- The number of threads that the machine has.  There is no way to ask for it here, so the machine
counts as one that does not tell. -/
def machineThreads : Option Count := none

/-- The time that has passed since some point in time, and the point in time now. -/
def readClock (started : Nat) : IO Clock := do
  let elapsed := (← IO.monoMsNow) - started
  let now ← Std.Time.Timestamp.now
  let seconds := now.toSecondsSinceUnixEpoch.val.toNat
  return {
    elapsedMs := (Count.ofNat? elapsed).getD 0
    finishedAt := .ofSeconds seconds now.val.nano.val.toNat }

/-- Writes what the command has written. -/
def writeConsole (console : Console) (verbose : Bool) : IO Unit := do
  for line in console.log do
    if showsLine verbose line then IO.eprintln line.render
  IO.eprint console.errors
  IO.print console.output

end LineTally.Command

open LineTally LineTally.Command in
/-- Runs the command. -/
def main (arguments : List String) : IO UInt32 := do
  let started ← IO.monoMsNow
  let found ← readVariables
  let environment := fun name => found.lookup name
  let asked := (request environment arguments).toOption
  let needs := (asked.map (·.needs environment)).getD {}
  let nodes ← needs.paths.mapM fun path => do return (path, ← readNode path)
  let bytes ← if needs.input then readInput (← IO.getStdin) [] else pure []
  let host : Host := {
    environment
    files := fun path => (nodes.lookup path).join
    input := { bytes }
    workers := Settings.usualWorkers machineThreads
    clock := ← readClock started }
  let outcome := host.run arguments
  let verbose := (asked.map (·.options.verbose)).getD false || (environment debugVariable).isSome
  writeConsole outcome.console verbose
  return outcome.code.toUInt32
