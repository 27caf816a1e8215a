import LineTally.Failure
import LineTally.Predicate

/-!
# Plans of scans

What has to be known before a scan starts.
-/

namespace LineTally.Scan

/-- How a scan is to be done. -/
structure Plan where
  /-- The number of lines that may wait in the queue. -/
  capacity : Nat
  /-- The number of workers. -/
  workers : Nat
  /-- The term to look for. -/
  term : String
  /-- Whether case is ignored. -/
  ignoreCase : Bool
  deriving DecidableEq, Repr

/-- Refuses a plan that cannot be carried out. -/
def Plan.check (plan : Plan) : Except Failure Unit :=
  if plan.capacity = 0 then .error (.config "queue capacity must be at least 1")
  else if plan.workers = 0 then .error (.config "worker count must be at least 1")
  else if plan.term.isEmpty then .error (.config "search term must not be empty")
  else .ok ()

/-- The search that a plan asks for. -/
def Plan.search (plan : Plan) : Search :=
  .ofTerm plan.term plan.ignoreCase

end LineTally.Scan
