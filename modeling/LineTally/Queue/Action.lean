import LineTally.Queue.Basic

/-!
# Interference with a queue

A source of lines or a predicate, while it is asked, may itself act on the queue: cancel it, mark
the end of the stream, or set the flag without waking anybody.  A request for shutdown is a
cancellation that is put on record.
-/

namespace LineTally.Queue

variable {ι α : Type} [DecidableEq ι]

/-- What can be done to a queue from outside. -/
inductive Action where
  /-- Cancel the queue. -/
  | cancel
  /-- Cancel the queue, and say so in the log if it was not cancelled before. -/
  | shutdown
  /-- Mark the end of the stream. -/
  | endStream
  /-- Set the cancellation flag and wake nobody. -/
  | raiseFlag
  deriving DecidableEq, Repr

/-- What the log says when a request for shutdown is the first to cancel the queue. -/
def shutdownNotice (first : Bool) : List LogLine :=
  if first then [⟨.info, "Shutdown requested, stopping reader and workers"⟩] else []

/-- Where a thread is inside an action. -/
inductive Acting where
  | cancelling (call : Cancel)
  | shuttingDown (call : Cancel)
  | ending (call : EndStream)
  | raisingFlag
  deriving DecidableEq, Repr

/-- The start of an action. -/
def Action.start : Action → Acting
  | cancel => .cancelling .raising
  | shutdown => .shuttingDown .raising
  | endStream => .ending .arriving
  | raiseFlag => .raisingFlag

/-- A step inside an action. -/
structure Acted (ι α : Type) where
  /-- The queue after it. -/
  queue : Queue ι α
  /-- Where the thread is after it; an action answers whether it was the first of its kind. -/
  progress : Progress Acting Bool
  /-- What it wrote to the log. -/
  log : List LogLine := []

/-- The next step of a thread inside an action. -/
def Acting.step (queue : Queue ι α) (me : ι) : Acting → Option (Acted ι α)
  | .cancelling call => (call.step queue me).map fun move =>
    match move.progress with
    | .at call => { queue := move.queue, progress := .at (.cancelling call) }
    | .returned first => { queue := move.queue, progress := .returned first }
  | .shuttingDown call => (call.step queue me).map fun move =>
    match move.progress with
    | .at call => { queue := move.queue, progress := .at (.shuttingDown call) }
    | .returned first => {
        queue := move.queue, progress := .returned first, log := shutdownNotice first }
  | .ending call => (call.step queue me).map fun move =>
    match move.progress with
    | .at call => { queue := move.queue, progress := .at (.ending call) }
    | .returned first => { queue := move.queue, progress := .returned first }
  | .raisingFlag => some { queue := queue.raiseFlag, progress := .returned !queue.cancelled }

end LineTally.Queue
