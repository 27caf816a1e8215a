import LineTally.Consumer
import LineTally.Rendezvous
import LineTally.Slots

/-!
# The workers of a scan

A worker consumes lines, records its tally and waits for the others.  If it is the last to stop
while the stream is still open and the run was not cancelled, it cancels the queue, so that the
reader does not wait for room that nobody will make.  When all have recorded their tallies, the
first worker sums them up, reports the sum and publishes it.
-/

namespace LineTally.Scan

/-- The threads of a scan. -/
inductive Thread where
  /-- The reader. -/
  | reader
  /-- A worker. -/
  | worker (index : Nat)
  /-- Somebody who asks for shutdown. -/
  | requester (index : Nat)
  /-- The thread that started the others. -/
  | coordinator
  deriving DecidableEq, Repr

/-- The number of the worker that reports. -/
def aggregator : Nat := 0

/-- Where a worker is. -/
inductive Worker where
  /-- Consuming lines. -/
  | consuming (consumer : Consumer)
  /-- Before recording its tally. -/
  | recording (tally : WorkerTally)
  /-- Before leaving the ranks of the living. -/
  | leaving
  /-- The last to leave, before looking whether the stream has ended. -/
  | probing
  /-- The last to leave an open stream, before reading the flag. -/
  | checking
  /-- Cancelling the queue. -/
  | cancelling (call : Queue.Cancel)
  /-- Before arriving at the rendezvous. -/
  | arriving
  /-- At the rendezvous. -/
  | waiting
  /-- Before summing up. -/
  | aggregating
  /-- Before reporting. -/
  | reporting (tally : Tally)
  /-- Before publishing what was reported. -/
  | publishing (tally : Tally)
  /-- Ended. -/
  | ended
  /-- Ended by a fault. -/
  | died (fault : Fault)

/-- The thread of the worker has ended. -/
def Worker.isOver : Worker → Bool
  | .ended | .died _ => true
  | _ => false

/-- The thread of the worker has ended by a fault. -/
def Worker.hasDied : Worker → Bool
  | .died _ => true
  | _ => false

/-- What workers share. -/
structure Shared where
  /-- The queue of lines. -/
  queue : Queue Thread String
  /-- The slots for the tallies. -/
  slots : Slots
  /-- Where the workers wait for one another. -/
  rendezvous : Rendezvous Thread
  /-- The number of workers that still consume. -/
  live : Nat
  /-- The tally that was reported. -/
  published : Option Tally := none

/-- What can be observed of a scan. -/
inductive Event where
  /-- The reader put a line into the queue. -/
  | put (line : String)
  /-- A worker took a line from the queue. -/
  | took (worker : Nat) (line : String)
  /-- The reader asked the source. -/
  | asked
  /-- The predicate answered a worker. -/
  | judged (worker : Nat)
  /-- A worker stopped consuming. -/
  | stopped (worker : Nat) (tally : WorkerTally)
  /-- A worker handed the sum of all tallies to the sink. -/
  | reported (worker : Nat) (tally : Tally)
  /-- The sink was told of a failure of the source. -/
  | sourceFailed (message : String)
  /-- A request for shutdown was granted. -/
  | shutDown
  /-- A line of the log. -/
  | logged (line : LogLine)
  deriving DecidableEq, Repr

/-- The event of an item that entered or left the queue. -/
def Event.ofTransfer (worker : Nat) : Queue.Transfer String → Event
  | .put line => .put line
  | .took line => .took worker line

/-- What the code around a scan does when it is called. -/
structure Surroundings where
  /-- The test of lines. -/
  predicate : Predicate
  /-- How the receiver of the sum gives up on it, if it does. -/
  sink : Tally → Option Fault := fun _ => none

/-- A step of a worker. -/
structure Worker.Step where
  /-- What is shared, after it. -/
  shared : Shared
  /-- Where the worker is after it. -/
  worker : Worker
  /-- What can be observed of it. -/
  events : List Event := []

/-- What the log says when the last worker leaves a stream that has not ended. -/
def abandonedNotice : LogLine :=
  ⟨.warn, "All workers stopped before the input was drained"⟩

/-- A worker leaves the rendezvous. -/
def Worker.afterRendezvous (index : Nat) : Arrival → Worker
  | .complete => if index = aggregator then .aggregating else .ended
  | .forfeited => .ended

/-- What can be observed of a step of a consumer. -/
def Worker.consumerEvents (index : Nat) (before : Consumer) (step : Consumer.Step Thread) :
    List Event :=
  let judged := match before, step.consumer with
    | .testing .., .acting .. => []
    | .testing .., _ => [.judged index]
    | _, _ => []
  let shutDown := match before, step.consumer with
    | .acting _ _ _ (.shuttingDown (.leaving _)), .testing .. => [.shutDown]
    | _, _ => []
  (step.transfer.map (Event.ofTransfer index)).toList ++ judged ++ step.log.map .logged
    ++ shutDown

/-- The next step of a worker. -/
def Worker.step (around : Surroundings) (shared : Shared) (index : Count) (pick : Nat)
    (worker : Worker) : Option Worker.Step :=
  let me := Thread.worker index.toNat
  match worker with
  | .consuming (.finished tally) => some {
      shared, worker := .recording tally, events := [.stopped index.toNat tally] }
  | .consuming consumer =>
    (consumer.step around.predicate index shared.queue me pick).map fun step => {
      shared := { shared with queue := step.queue }
      worker := .consuming step.consumer
      events := consumerEvents index.toNat consumer step }
  | .recording tally =>
    let (slots, log) := shared.slots.record tally
    some { shared := { shared with slots }, worker := .leaving, events := log.map .logged }
  | .leaving =>
    let shared' := { shared with live := (shared.live + (Count.limit - 1)) % Count.limit }
    some { shared := shared', worker := if shared.live = 1 then .probing else .arriving }
  | .probing =>
    if shared.queue.holder.isSome then none
    else some { shared, worker := if shared.queue.ended then .arriving else .checking }
  | .checking =>
    if shared.queue.cancelled then some { shared, worker := .arriving }
    else some { shared, worker := .cancelling .raising, events := [.logged abandonedNotice] }
  | .cancelling call => (call.step shared.queue me).map fun move => {
      shared := { shared with queue := move.queue }
      worker := match move.progress with
        | .at call => .cancelling call
        | .returned _ => .arriving }
  | .arriving =>
    match shared.rendezvous.arrive me with
    | .error fault => some { shared, worker := .died fault }
    | .ok (rendezvous, arrival?) => some {
        shared := { shared with rendezvous }
        worker := match arrival? with
          | some arrival => afterRendezvous index.toNat arrival
          | none => .waiting }
  | .waiting => (shared.rendezvous.resume? me).map fun (rendezvous, arrival?) => {
      shared := { shared with rendezvous }
      worker := match arrival? with
        | some arrival => afterRendezvous index.toNat arrival
        | none => .waiting }
  | .aggregating =>
    match shared.slots.aggregate with
    | .ok tally => some { shared, worker := .reporting tally }
    | .error fault => some { shared, worker := .died fault }
  | .reporting tally => some {
      shared
      worker := match around.sink tally with
        | none => .publishing tally
        | some fault => .died fault
      events := [.reported index.toNat tally] }
  | .publishing tally =>
    match shared.published with
    | none => some { shared := { shared with published := some tally }, worker := .ended }
    | some _ => some {
        shared
        worker := .ended
        events := [.logged ⟨.error, "Aggregate already published; keeping the first one"⟩] }
  | .ended => none
  | .died _ => none

end LineTally.Scan
