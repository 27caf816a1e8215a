import LineTally.Failure
import LineTally.Tally

/-!
# Receivers of results

A receiver is told the sum of all tallies once, and of a failure of the source if there was one.
One writes to the log, another keeps what it is told.
-/

namespace LineTally

/-- What a tally is worth to the log: its total, and a line for every worker. -/
def Tally.notices (tally : Tally) : List LogLine :=
  ⟨.info, s!"Total matches: {tally.total}"⟩ ::
    tally.workers.map fun worker =>
      ⟨.info, s!"Worker {worker.index}: {worker.matched} matches in {worker.consumed} lines"
        ++ failureMark worker⟩

/-- What a failure of the source is worth to the log. -/
def sourceFailureNotice (message : String) : LogLine :=
  ⟨.warn, s!"Line source failed, results are partial: {message}"⟩

/-- What a receiver has kept. -/
structure Kept where
  /-- The sums, in order. -/
  tallies : List Tally := []
  /-- The failures of the source, in order. -/
  errors : List String := []
  deriving DecidableEq, Repr

/-- Keeps a sum. -/
def Kept.report (kept : Kept) (tally : Tally) : Kept :=
  { kept with tallies := kept.tallies ++ [tally] }

/-- Keeps a failure of the source. -/
def Kept.sourceFailed (kept : Kept) (message : String) : Kept :=
  { kept with errors := kept.errors ++ [message] }

end LineTally
