import LineTally.Count

/-!
# Tallies

What each worker counted, and what all of them counted together.
-/

namespace LineTally

/-- What one worker counted. -/
structure WorkerTally where
  /-- The number of the worker. -/
  index : Count
  /-- The lines that matched. -/
  matched : Count
  /-- The lines that were taken. -/
  consumed : Count
  /-- The worker failed, and what it counted was discarded. -/
  failed : Bool
  deriving DecidableEq, Repr

/-- The tally of a worker that failed, or of which nothing is known. -/
def WorkerTally.lost (index : Count) : WorkerTally :=
  { index, matched := 0, consumed := 0, failed := true }

/-- What all workers counted. -/
structure Tally where
  /-- The lines that matched. -/
  total : Count
  /-- The tallies of the workers, in order. -/
  workers : List WorkerTally
  deriving DecidableEq, Repr

namespace Tally

/-- The sum of the matches of some workers. -/
def ofWorkers (workers : List WorkerTally) : Except Fault Tally := do
  let total ← Count.sum (workers.map (·.matched))
  return { total, workers }

/-- The lines taken by all workers together. -/
def consumed (tally : Tally) : Except Fault Count :=
  Count.sum (tally.workers.map (·.consumed))

/-- The number of workers that failed. -/
def failedWorkers (tally : Tally) : Nat :=
  tally.workers.countP (·.failed)

/-- The mark behind the counts of a worker that failed. -/
def failureMark (worker : WorkerTally) : String :=
  if worker.failed then " (failed)" else ""

/-- A worker's line in the plain form. -/
def plainLine (worker : WorkerTally) : String :=
  s!"worker {worker.index}: {worker.matched}{failureMark worker}\n"

/-- The plain form: the total, and a line for every worker if they are to be shown. -/
def plain (tally : Tally) (showWorkers : Bool) : String :=
  s!"{tally.total}\n" ++
    if showWorkers then String.join (tally.workers.map plainLine) else ""

end Tally

end LineTally
