import LineTally.Command.Options
import LineTally.Command.Outcome
import LineTally.Report.Json
import LineTally.Scan.Waiting
import LineTally.Text.Blank

/-!
# Showing a scan

In the plain form the result is written as soon as the workers have summed up; in the other forms it
is written when the scan is over, and all of it is known.
-/

namespace LineTally.Command

/-- How the result of a scan is shown. -/
structure Display where
  format : Format
  /-- Whether the workers are shown one by one. -/
  showWorkers : Bool
  deriving DecidableEq, Repr

/-- When a scan was over, and how long it took. -/
structure Clock where
  elapsedMs : Count
  finishedAt : Timestamp

/-- What is written when something happens in a scan. -/
def Display.event (display : Display) : Scan.Event → Console
  | .reported _ tally =>
    if display.format = .plain then { output := tally.plain display.showWorkers } else {}
  | .sourceFailed message => { errors := s!"{name}: read error: {message}\n" }
  | .logged line => { log := [line] }
  | _ => {}

/-- What is written while a scan goes on. -/
def Display.events (display : Display) (events : List Scan.Event) : Console :=
  events.foldl (fun console event => console ++ display.event event) {}

/-- The code of a scan that is over. -/
def reportCode (report : Report) : Nat :=
  if report.sourceError.isSome then sourceFailureCode
  else if report.cancelled then interruptionCode
  else 0

/-- A text without blanks at its end, as lines. -/
def trimmedLines (text : String) : String :=
  String.ofList (Text.trimEnd text.toList) ++ "\n"

/-- What is written when a scan is over, and how the command ends. -/
def Display.report (display : Display) (report : Report) : Outcome :=
  let code := reportCode report
  match display.format with
  | .json => { console := { output := trimmedLines report.json }, code }
  | .pretty =>
    { console := { output := trimmedLines (report.pretty display.showWorkers) }, code }
  | .plain =>
    if report.cancelled then
      match report.tally.consumed with
      | .ok consumed =>
        let errors := s!"Cancelled after {consumed} lines; counts are partial\n"
        { console := { errors }, code }
      | .error fault => .ofFault fault
    else { console := {}, code }

/-- How the command ends when the threads of a scan have come to rest. -/
def Display.finish (display : Display) (clock : Clock) (state : Scan.State) : Outcome :=
  match state.coordinator with
  | .returned summary =>
    display.report
      { summary with elapsedMs := clock.elapsedMs, finishedAt := clock.finishedAt }
  | .died fault => .ofFault fault
  | _ => { console := {}, code := faultCode }

/-- What is said of the first interruption. -/
def interruptionNotice : Console :=
  { errors := "Interrupted, finishing up... (press Ctrl-C again to exit now)\n" }

/-- How the command ends by the second interruption. -/
def abandoned : Outcome :=
  { console := { errors := "Interrupted again, exiting\n" }, code := interruptionCode }

/-- What a scan comes to that is not interrupted. -/
def Display.run (display : Display) (clock : Clock) (around : Scan.Surroundings)
    (state : Scan.State) : Outcome :=
  let (last, events) := state.run around
  (display.finish clock last).behind (display.events events)

/-- What a scan comes to that is interrupted while its source has nothing yet of its last things,
`later` in number.  By the first interruption it is asked to shut down; by the second, the command
ends at once.  A scan that is over by then cannot be interrupted. -/
def Display.runInterrupted (display : Display) (clock : Clock) (around : Scan.Surroundings)
    (later : Nat) (again : Bool) (state : Scan.State) : Outcome :=
  let waiting := Scan.waitingSystem around later
  let budget := state.budget around
  let (still, before) := waiting.settle Scan.State.innerOrder budget state
  if still.coordinator.isOver then
    (display.finish clock still).behind (display.events before)
  else
    let (asked, after) := waiting.settle Scan.State.order budget still
    let console := display.events before ++ interruptionNotice ++ display.events after
    if again then abandoned.behind console
    else
      let (last, rest) := (Scan.system around).settle Scan.State.readingOrder budget asked
      (display.finish clock last).behind (console ++ display.events rest)

end LineTally.Command
