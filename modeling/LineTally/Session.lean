import LineTally.Consumer
import LineTally.Reader
import LineTally.Threads

/-!
# Threads around one queue

A session is a queue and the threads that use it: some push or pop a single item, some read a whole
source into the queue or consume what is in it, some act on it.  New threads may start at any time.
-/

namespace LineTally

/-- What a thread of a session is there for. -/
inductive Task where
  /-- To push an item. -/
  | push (item : String)
  /-- To pop an item. -/
  | pop
  /-- To read a source into the queue. -/
  | produce (source : List Entry)
  /-- To consume what is in the queue, as the worker of that number. -/
  | consume (index : Count) (predicate : Predicate)
  /-- To act on the queue. -/
  | act (action : Queue.Action)

namespace Session

/-- What a thread of a session came to. -/
inductive Outcome where
  /-- The end of a push. -/
  | pushed (result : Queue.PushResult)
  /-- The end of a pop. -/
  | popped (result : Queue.PopResult String)
  /-- The end of a source, or of the reader. -/
  | produced (result : Except Fault Reading)
  /-- The end of a consumer. -/
  | consumed (tally : WorkerTally)
  /-- The end of an action. -/
  | acted (first : Bool)

/-- Where a thread of a session is. -/
inductive Client where
  | pushing (push : Queue.Push String)
  | popping (pop : Queue.Pop String)
  | reading (reader : Reader)
  | consuming (index : Count) (predicate : Predicate) (consumer : Consumer)
  | acting (inside : Queue.Acting)
  | ended (outcome : Outcome)

/-- The start of a thread. -/
def Client.start : Task → Client
  | .push item => .pushing (.arriving item)
  | .pop => .popping .arriving
  | .produce source => .reading (.start source)
  | .consume index predicate => .consuming index predicate .start
  | .act action => .acting action.start

/-- What a thread came to, if it has ended. -/
def Client.outcome? : Client → Option Outcome
  | .ended outcome => some outcome
  | _ => none

/-- A step of a thread. -/
structure Step where
  /-- The queue after it. -/
  queue : Queue Nat String
  /-- Where the thread is after it. -/
  client : Client
  /-- The item that entered or left the queue by it. -/
  transfer : Option (Queue.Transfer String) := none
  /-- What it wrote to the log. -/
  log : List LogLine := []

/-- The next step of a thread. -/
def Client.step (queue : Queue Nat String) (me pick : Nat) : Client → Option Step
  | .pushing push => (push.step queue me pick).map fun move =>
    let client := match move.progress with
      | .at push => .pushing push
      | .returned result => .ended (.pushed result)
    { queue := move.queue, client, transfer := move.transfer }
  | .popping pop => (pop.step queue me pick).map fun move =>
    let client := match move.progress with
      | .at pop => .popping pop
      | .returned result => .ended (.popped result)
    { queue := move.queue, client, transfer := move.transfer }
  | .reading reader => (reader.step queue me pick).map fun step =>
    let client := match step.reader with
      | .finished result => .ended (.produced result)
      | reader => .reading reader
    { queue := step.queue, client, transfer := step.transfer, log := step.log }
  | .consuming index predicate consumer =>
    (consumer.step predicate index queue me pick).map fun step =>
      let client := match step.consumer with
        | .finished tally => .ended (.consumed tally)
        | consumer => .consuming index predicate consumer
      { queue := step.queue, client, transfer := step.transfer, log := step.log }
  | .acting inside => (inside.step queue me).map fun acted =>
    let client := match acted.progress with
      | .at inside => .acting inside
      | .returned first => .ended (.acted first)
    { queue := acted.queue, client, log := acted.log }
  | .ended _ => none

/-- What can be observed of a step. -/
inductive Event where
  /-- An item entered or left the queue, by the thread of that number. -/
  | transferred (thread : Nat) (transfer : Queue.Transfer String)
  /-- A line of the log. -/
  | logged (line : LogLine)

end Session

/-- A queue and the threads around it, in the order in which they started. -/
structure Session where
  queue : Queue Nat String
  clients : List Session.Client := []

namespace Session

/-- What can be observed of a step of a thread. -/
def Step.events (thread : Nat) (step : Step) : List Event :=
  (step.transfer.map (.transferred thread)).toList ++ step.log.map .logged

/-- The threads of a session take turns. -/
def system : System Session Nat Event where
  step thread pick session := do
    let client ← session.clients[thread]?
    let step ← client.step session.queue thread pick
    return (
      { queue := step.queue, clients := session.clients.set thread step.client },
      step.events thread)

/-- A session with an empty queue. -/
def create (capacity : Nat) : Except Failure Session := do
  return { queue := ← Queue.create capacity }

/-- The steps that a thread may still cause, woken sleepers of other threads left out. -/
def Client.budget : Client → Nat
  | .reading (.checking source _) => 32 * (source.length + 2)
  | .reading (.asking source _) => 32 * (source.length + 2)
  | .reading (.acting source _ _) => 32 * (source.length + 2)
  | .reading (.pushing source _ _) => 32 * (source.length + 2)
  | .reading _ => 32
  | _ => 32

/-- A number of steps after which every thread has ended or sleeps. -/
def budget (session : Session) : Nat :=
  let threads := session.clients.length
  let own := (session.clients.map Client.budget).foldr (· + ·) 0
  (own + 32 * (session.queue.ring.count + threads)) * (threads + 2)

/-- Lets the threads go on until each has ended or sleeps, those that started first going first. -/
def settle (session : Session) : Session × List Event :=
  system.settle (fun session => List.range session.clients.length) session.budget session

/-- Starts a thread and lets all threads go on until each has ended or sleeps. -/
def start (session : Session) (task : Task) : Session × List Event :=
  settle { session with clients := session.clients ++ [.start task] }

end Session

end LineTally
