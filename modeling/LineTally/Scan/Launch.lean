import LineTally.Scan.Basic

/-!
# How the threads of a scan are started

The coordinator starts the workers, one after the other, and then the reader; each goes to work as
soon as it is there.  The system may refuse to start one of them.  Then the scan is given up: the
coordinator cancels the queue and forfeits the rendezvous, so that nobody waits for threads that
will never come, and when the workers that were started have ended, the refusal is what the scan
fails with.
-/

namespace LineTally.Scan

/-- Why the system refuses to start a thread, if it does: first come the workers, then the
reader. -/
abbrev Refusals := Nat → Option IoError

/-- Where the coordinator is before it waits for the reader. -/
inductive Launcher where
  /-- Before starting the next thread. -/
  | starting
  /-- With all threads started. -/
  | launched
  /-- Cancelling the queue. -/
  | cancelling (failure : Failure) (call : Queue.Cancel)
  /-- Before forfeiting the rendezvous. -/
  | forfeiting (failure : Failure)
  /-- Waiting for the workers that were started to end. -/
  | awaiting (failure : Failure)
  /-- The scan has failed. -/
  | failed (failure : Failure)
  /-- Ended by a fault. -/
  | died (fault : Fault)
  deriving DecidableEq, Repr

/-- Where the coordinator is after a step of the call that cancels the queue. -/
def Launcher.afterCancel (failure : Failure) : Queue.Progress Queue.Cancel Bool → Launcher
  | .at call => .cancelling failure call
  | .returned _ => .forfeiting failure

/-- A scan whose threads are being started.  Those that are not there yet are where they start. -/
structure Launch where
  /-- The threads, and what they share. -/
  scan : State
  /-- The number of workers that were started. -/
  started : Nat := 0
  /-- The coordinator. -/
  launcher : Launcher := .starting

namespace Launch

/-- The workers that were started. -/
def crew (launch : Launch) : List Worker :=
  launch.scan.workers.take launch.started

/-- What the next thread to start is called. -/
def nextName (launch : Launch) : String :=
  if launch.started < launch.scan.workers.length then s!"worker {launch.started}" else "reader"

/-- At the queue, the coordinator that gives up is one more who asks for shutdown. -/
def canceller (launch : Launch) : Thread :=
  .requester launch.scan.requesters.length

/-- The fault of a coordinator that finds that a worker ended by a fault. -/
def lostWorker : Fault :=
  .raised "a scoped thread panicked"

/-- The next step of the coordinator. -/
def advance (refusals : Refusals) (launch : Launch) : Option Launch :=
  match launch.launcher with
  | .starting =>
    match refusals launch.started with
    | some error =>
      some { launch with launcher := .cancelling (.resource launch.nextName error) .raising }
    | none =>
      if launch.started < launch.scan.workers.length then
        some { launch with started := launch.started + 1 }
      else some { launch with launcher := .launched }
  | .cancelling failure call =>
    (call.step launch.scan.shared.queue launch.canceller).map fun move => { launch with
      scan := { launch.scan with shared := { launch.scan.shared with queue := move.queue } }
      launcher := .afterCancel failure move.progress }
  | .forfeiting failure =>
    let shared := launch.scan.shared
    let rendezvous := shared.rendezvous.forfeit
    some { launch with
      scan := { launch.scan with shared := { shared with rendezvous } }
      launcher := .awaiting failure }
  | .awaiting failure =>
    if launch.crew.all (·.isOver) then
      some { launch with
        launcher := if launch.crew.any (·.hasDied) then .died lostWorker else .failed failure }
    else none
  | .launched | .failed _ | .died _ => none

/-- Whether a thread has been started, and left to itself. -/
def has (launch : Launch) : Thread → Bool
  | .worker index => index < launch.started
  | .requester _ => true
  | .reader | .coordinator => launch.launcher = .launched

end Launch

/-- The threads that are there take turns with the coordinator that starts them. -/
def launchSystem (around : Surroundings) (refusals : Refusals) :
    System Launch Thread Event where
  step thread pick launch :=
    if launch.has thread then
      ((system around).step thread pick launch.scan).map fun (scan, events) =>
        ({ launch with scan }, events)
    else if thread = .coordinator then (launch.advance refusals).map (·, [])
    else none

/-- A scan of which no thread has been started. -/
def Launch.start (capacity workers : Nat) (source : List Feed) (requests : Nat) : Launch where
  scan := .start capacity workers source requests

/-- What the scan came to, once it is over, unless the coordinator itself has faulted. -/
def Launch.result? (launch : Launch) : Option (Except Failure Summary) :=
  match launch.launcher with
  | .launched => launch.scan.summary?.map .ok
  | .failed failure => some (.error failure)
  | _ => none

end LineTally.Scan
