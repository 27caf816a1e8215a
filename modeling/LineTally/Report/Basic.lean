import LineTally.Decimal.Shortest
import LineTally.Summary
import LineTally.Time.Basic

/-!
# Reports

A report is what a run came to, with the time that it took and the time at which it ended.  It can
be shown plainly or with more words; the JSON form has a module of its own.
-/

namespace LineTally

/-- What a run came to, and when. -/
structure Report extends Summary where
  /-- The duration of the run in milliseconds. -/
  elapsedMs : Count
  /-- The end of the run. -/
  finishedAt : Timestamp
  deriving DecidableEq

namespace Report

/-- The plain form: that of the tally. -/
def plain (report : Report) (showWorkers : Bool) : String :=
  report.tally.plain showWorkers

/-- A number at the right end of a field of a given width. -/
def alignRight (width : Nat) (count : Count) : String :=
  let digits := toString count
  String.ofList (List.replicate (width - digits.length) ' ') ++ digits

/-- A worker's line. -/
def workerLine (worker : WorkerTally) : String :=
  let status := if worker.failed then "failed" else "ok"
  s!"  worker {alignRight 3 worker.index}  {alignRight 10 worker.matched} matches  "
    ++ s!"{alignRight 10 worker.consumed} lines  {status}\n"

/-- The line under the heading. -/
def rule : String :=
  String.ofList (List.replicate 50 '─')

/-- The form for people. -/
def pretty (report : Report) (showWorkers : Bool) : String :=
  s!"Found {report.tally.total} matching lines in {report.produced} lines "
    ++ s!"({Decimal.toDouble report.elapsedMs.toNat}.0ms)\n{rule}\n"
    ++ (if showWorkers then String.join (report.tally.workers.map workerLine) else "")
    ++ (if report.cancelled then
        "\nScan cancelled; counts cover the lines processed before shutdown.\n" else "")
    ++ match report.sourceError with
      | some error => s!"\nInput error: {error}\n"
      | none => ""

end Report

end LineTally
