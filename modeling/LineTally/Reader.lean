import LineTally.Queue.Action

/-!
# The reading thread

The reader asks a source for lines and pushes those that are not empty.  It looks at the
cancellation flag before every request, and stops at the end of the source, at an error, or when a
push is refused.  However it stops, it marks the end of the stream, so that nobody waits for lines
that will not come.
-/

namespace LineTally

/-- What a source does when it is asked for the next line. -/
inductive Entry where
  /-- It gives a line. -/
  | line (text : String)
  /-- It fails. -/
  | failure (message : String)
  /-- It gives up. -/
  | fault (message : String)
  /-- It acts on the queue, and goes on to its next entry at once. -/
  | act (action : Queue.Action)
  deriving DecidableEq, Repr

/-- What the reader did. -/
structure Reading where
  /-- The lines that the source gave. -/
  linesRead : Count := 0
  /-- The lines put into the queue. -/
  produced : Count := 0
  /-- The empty lines, which are not put into the queue. -/
  skippedEmpty : Count := 0
  /-- The reader stopped because the queue was cancelled. -/
  cancelled : Bool := false
  /-- The error of the source. -/
  error : Option String := none
  deriving DecidableEq, Repr

/-- Where the reading thread is.  `source` is what the source will still do; behind it, it has
ended. -/
inductive Reader where
  /-- Before reading the flag. -/
  | checking (source : List Entry) (reading : Reading)
  /-- In the source. -/
  | asking (source : List Entry) (reading : Reading)
  /-- In the source, which acts on the queue. -/
  | acting (source : List Entry) (reading : Reading) (inside : Queue.Acting)
  /-- In a push. -/
  | pushing (source : List Entry) (reading : Reading) (push : Queue.Push String)
  /-- Marking the end of the stream, with nothing else to do. -/
  | ending (result : Except Fault Reading) (call : Queue.EndStream)
  /-- The thread has ended. -/
  | finished (result : Except Fault Reading)

namespace Reader

variable {ι : Type} [DecidableEq ι]

/-- The start of the reading thread. -/
def start (source : List Entry) : Reader :=
  .checking source {}

/-- What the reader has come to, whatever that is. -/
def stop (result : Except Fault Reading) : Reader :=
  .ending result .arriving

/-- A step of the reading thread. -/
structure Step (ι : Type) where
  /-- The queue after it. -/
  queue : Queue ι String
  /-- Where the thread is after it. -/
  reader : Reader
  /-- The line that entered the queue by it. -/
  transfer : Option (Queue.Transfer String) := none
  /-- What it wrote to the log. -/
  log : List LogLine := []

/-- The reader has a line from the source. -/
def receive (source : List Entry) (reading : Reading) (text : String) : Reader :=
  match reading.linesRead.succ with
  | .error fault => stop (.error fault)
  | .ok linesRead =>
    let reading := { reading with linesRead }
    if text.isEmpty then
      match reading.skippedEmpty.succ with
      | .error fault => stop (.error fault)
      | .ok skippedEmpty => .checking source { reading with skippedEmpty }
    else .pushing source reading (.arriving text)

/-- What a failure of the source writes to the log. -/
def failureNotice (reading : Reading) (message : String) : LogLine :=
  ⟨.warn, s!"Read failed after {reading.linesRead} lines: {message}"⟩

/-- What a queue that closed too early writes to the log. -/
def closedNotice : LogLine :=
  ⟨.warn, "Queue closed before the source was drained"⟩

/-- The reader asks the source, which does the next thing it has to do. -/
def ask (queue : Queue ι String) (source : List Entry) (reading : Reading) : Step ι :=
  match source with
  | [] => { queue, reader := stop (.ok reading) }
  | .line text :: source => { queue, reader := receive source reading text }
  | .failure message :: _ => {
      queue
      reader := stop (.ok { reading with error := some message })
      log := [failureNotice reading message] }
  | .fault message :: _ => { queue, reader := stop (.error (.raised message)) }
  | .act action :: source => { queue, reader := .acting source reading action.start }

/-- The reader goes on after a push. -/
def afterPush (source : List Entry) (reading : Reading) :
    Queue.PushResult → Reader × List LogLine
  | .placed =>
    match reading.produced.succ with
    | .ok produced => (.checking source { reading with produced }, [])
    | .error fault => (stop (.error fault), [])
  | .refused .cancelled => (stop (.ok { reading with cancelled := true }), [])
  | .refused .closed => (stop (.ok reading), [closedNotice])
  | .faulted fault => (stop (.error fault), [])

/-- The next step of the reading thread. -/
def step (queue : Queue ι String) (me : ι) (pick : Nat) : Reader → Option (Step ι)
  | .checking source reading =>
    if queue.cancelled then
      some { queue, reader := stop (.ok { reading with cancelled := true }) }
    else some { queue, reader := .asking source reading }
  | .asking source reading => some (ask queue source reading)
  | .acting source reading inside => (inside.step queue me).map fun acted =>
    match acted.progress with
    | .at inside => {
        queue := acted.queue, reader := .acting source reading inside, log := acted.log }
    | .returned _ => {
        queue := acted.queue, reader := .asking source reading, log := acted.log }
  | .pushing source reading push => (push.step queue me pick).map fun move =>
    match move.progress with
    | .at push => {
        queue := move.queue
        reader := .pushing source reading push
        transfer := move.transfer }
    | .returned result =>
      let (reader, log) := afterPush source reading result
      { queue := move.queue, reader, transfer := move.transfer, log }
  | .ending result call => (call.step queue me).map fun move =>
    match move.progress with
    | .at call => { queue := move.queue, reader := .ending result call }
    | .returned _ => { queue := move.queue, reader := .finished result }
  | .finished _ => none

end Reader

end LineTally
