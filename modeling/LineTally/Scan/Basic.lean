import LineTally.Lines.Splitter
import LineTally.Reader
import LineTally.Scan.Plan
import LineTally.Scan.Worker
import LineTally.Sink
import LineTally.Summary
import LineTally.Threads

/-!
# Scans

A scan is run by one reading thread, a number of workers, and the thread that started them.  The
reader puts the lines of a source into a queue, the workers take them out and count those that
match, and when all are done the coordinator says what the run came to.  Anybody may ask for
shutdown at any time; then the run ends early, and says so.

Here all threads are there from the start; how they get there is in `LineTally.Scan.Launch`.
-/

namespace LineTally.Scan

/-- What the source of a scan does when it is asked for the next line. -/
inductive Feed where
  /-- It gives a line. -/
  | line (text : String)
  /-- It fails. -/
  | failure (message : String)
  /-- It gives up. -/
  | fault (message : String)
  /-- It asks for shutdown, and goes on to the next thing at once. -/
  | shutdown
  deriving DecidableEq, Repr

/-- What the source does, as the reader sees it. -/
def Feed.entry : Feed → Entry
  | line text => .line text
  | failure message => .failure message
  | fault message => .fault message
  | shutdown => .act .shutdown

/-- What a source does that reads lines from a stream; the end of the lines is its own end. -/
def Feed.ofAnswer? : Lines.Answer → Option Feed
  | .line text => some (.line text)
  | .finished => none
  | .failed error => some (.failure error.message)

/-- The source that reads lines from a stream. -/
def Feed.ofSplitter (splitter : Lines.Splitter) : List Feed :=
  splitter.lines.filterMap ofAnswer?

/-- What a test of lines does with a line in a scan. -/
structure Trial where
  /-- How often it asks for shutdown before it answers. -/
  shutdowns : Nat := 0
  /-- Whether the line matches, unless the test gives up with a message. -/
  answer : Except String Bool

/-- What a test does, as a worker sees it. -/
def Trial.verdict (trial : Trial) : Verdict :=
  { actions := List.replicate trial.shutdowns .shutdown, answer := trial.answer }

/-- A test of lines in a scan. -/
abbrev Test := String → Trial

/-- The test that only answers, and always does. -/
def Test.ofPredicate (matches? : String → Bool) : Test :=
  fun line => { answer := .ok (matches? line) }

/-- Where somebody who asks for shutdown is. -/
inductive Requester where
  /-- Asking. -/
  | asking (inside : Queue.Acting)
  /-- The request was granted. -/
  | satisfied

/-- Where the coordinator is. -/
inductive Coordinator where
  /-- Waiting for the reader to end. -/
  | awaitingReader
  /-- Waiting for the workers to end, in order. -/
  | awaitingWorkers (reading : Reading) (next : Nat)
  /-- Before telling the sink of a failure of the source. -/
  | announcing (reading : Reading)
  /-- Before looking for the sum. -/
  | totalling (reading : Reading)
  /-- Before reading the flag. -/
  | closing (reading : Reading) (tally : Tally)
  /-- The run is over. -/
  | returned (summary : Summary)
  /-- The coordinator itself faulted. -/
  | died (fault : Fault)

/-- All threads of a scan, and what they share. -/
structure State where
  shared : Shared
  reader : Reader
  workers : List Worker
  requesters : List Requester
  coordinator : Coordinator := .awaitingReader

/-- What is known of the source when its thread ended by a fault. -/
def lostReading : Reading :=
  { error := some "line source panicked" }

/-- The end of the coordinator's wait for the reader. -/
def Coordinator.ofReader : Except Fault Reading → Coordinator × List Event
  | .ok reading => (.awaitingWorkers reading 0, [])
  | .error _ =>
    (.awaitingWorkers lostReading 0, [.logged ⟨.error, "Reader thread panicked"⟩])

/-- The next step of the coordinator. -/
def Coordinator.step (state : State) : Coordinator → Option (Coordinator × List Event)
  | .awaitingReader =>
    match state.reader with
    | .finished result => some (ofReader result)
    | _ => none
  | .awaitingWorkers reading next =>
    match state.workers[next]? with
    | none => some (.announcing reading, [])
    | some .ended => some (.awaitingWorkers reading (next + 1), [])
    | some (.died _) =>
      some (.awaitingWorkers reading (next + 1),
        [.logged ⟨.error, s!"Worker {next} thread panicked"⟩])
    | some _ => none
  | .announcing reading =>
    some (.totalling reading, (reading.error.map .sourceFailed).toList)
  | .totalling reading =>
    match state.shared.published with
    | some tally => some (.closing reading tally, [])
    | none =>
      match state.shared.slots.aggregate with
      | .ok tally => some (.closing reading tally, [])
      | .error fault => some (.died fault, [])
  | .closing reading tally =>
    some (.returned {
      tally
      linesRead := reading.linesRead
      produced := reading.produced
      cancelled := state.shared.queue.cancelled
      sourceError := reading.error }, [])
  | .returned _ => none
  | .died _ => none

/-- What can be observed of a step of the reader. -/
def readerEvents (before : Reader) (step : Reader.Step Thread) : List Event :=
  let asked := match before with
    | .asking .. => [.asked]
    | _ => []
  let shutDown := match before, step.reader with
    | .acting _ _ (.shuttingDown (.leaving _)), .asking .. => [.shutDown]
    | _, _ => []
  asked ++ (step.transfer.map (Event.ofTransfer 0)).toList ++ step.log.map .logged ++ shutDown

/-- The threads of a scan take turns. -/
def system (around : Surroundings) : System State Thread Event where
  step thread pick state :=
    match thread with
    | .reader => (state.reader.step state.shared.queue .reader pick).map fun step =>
      ({ state with
          shared := { state.shared with queue := step.queue }
          reader := step.reader },
        readerEvents state.reader step)
    | .worker index => do
      let worker ← state.workers[index]?
      let count ← Count.ofNat? index
      let step ← worker.step around state.shared count pick
      return (
        { state with shared := step.shared, workers := state.workers.set index step.worker },
        step.events)
    | .requester index => do
      match ← state.requesters[index]? with
      | .satisfied => none
      | .asking inside =>
        let acted ← inside.step state.shared.queue (.requester index)
        let (requester, granted) := match acted.progress with
          | .at inside => (Requester.asking inside, [])
          | .returned _ => (Requester.satisfied, [Event.shutDown])
        return (
          { state with
            shared := { state.shared with queue := acted.queue }
            requesters := state.requesters.set index requester },
          acted.log.map .logged ++ granted)
    | .coordinator => (state.coordinator.step state).map fun (coordinator, events) =>
      ({ state with coordinator }, events)

/-- The start of a scan of a source, with a number of requests for shutdown to come. -/
def State.start (capacity workers : Nat) (source : List Feed) (requests : Nat) : State where
  shared := {
    queue := .empty capacity
    slots := .empty workers
    rendezvous := .ofParties workers
    live := workers }
  reader := .start (source.map Feed.entry)
  workers := List.replicate workers (.consuming .start)
  requesters := List.replicate requests (.asking (Queue.Action.start .shutdown))

/-- Checks a plan, and whether everything that it needs can be had. -/
def Plan.setUp (plan : Plan) : Except Failure Unit := do
  plan.check
  let _ : Queue Thread String ← Queue.create plan.capacity
  let _ ← Slots.create plan.workers
  return ()

/-- Prepares a scan: its plan is checked, and everything that it needs is set up. -/
def prepare (plan : Plan) (source : List Feed) (requests : Nat) : Except Failure State := do
  plan.setUp
  return State.start plan.capacity plan.workers source requests

/-- Whether the coordinator has nothing left to do. -/
def Coordinator.isOver : Coordinator → Bool
  | .returned _ => true
  | .died _ => true
  | _ => false

/-- What the run came to, once it is over. -/
def State.summary? (state : State) : Option Summary :=
  match state.coordinator with
  | .returned summary => some summary
  | _ => none

/-- What the reader still has to do, if it has not stopped. -/
def State.remaining (state : State) : List Entry :=
  match state.reader with
  | .checking source _ => source
  | .asking source _ => source
  | .acting source _ _ => source
  | .pushing source _ _ => source
  | .ending _ _ => []
  | .finished _ => []

/-- The requests for shutdown that a predicate makes on some lines. -/
def requestsOn (around : Surroundings) (lines : List Entry) : Nat :=
  (lines.map fun entry =>
    match entry with
    | .line text => (around.predicate text).actions.length
    | _ => 0).foldr (· + ·) 0

/-- A number of steps after which the run is over. -/
def State.budget (state : State) (around : Surroundings) : Nat :=
  let threads := state.workers.length + state.requesters.length + 4
  let work := state.remaining.length + requestsOn around state.remaining
    + state.shared.queue.ring.count + threads
  32 * (work + 1) * (threads + 1)

/-- What a receiver keeps of what it is told in a run, unless it gives up on it. -/
def kept (around : Surroundings) (events : List Event) : Kept :=
  events.foldl (fun kept event =>
    match event with
    | .reported _ tally => if (around.sink tally).isNone then kept.report tally else kept
    | .sourceFailed message => kept.sourceFailed message
    | _ => kept) {}

/-- The order in which threads go on: workers first, then the reader, so that lines are taken as
soon as they are there. -/
def State.innerOrder (state : State) : List Thread :=
  (List.range state.workers.length).map .worker ++ [.reader, .coordinator]

/-- The order in which threads go on, with requests for shutdown first. -/
def State.order (state : State) : List Thread :=
  (List.range state.requesters.length).map .requester ++ state.innerOrder

/-- The order in which threads go on when the source has all its things at once: it is read as fast
as there is room for its lines.  Only before it asks for shutdown are the lines taken that are
there. -/
def State.readingOrder (state : State) : List Thread :=
  match state.reader with
  | .asking (.act _ :: _) _ => state.order
  | _ => (List.range state.requesters.length).map .requester ++ .reader :: state.innerOrder

/-- Runs a scan until it is over. -/
def State.run (state : State) (around : Surroundings) : State × List Event :=
  (system around).settle State.readingOrder (state.budget around) state

end LineTally.Scan
