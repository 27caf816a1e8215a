import LineTally.Queue.Action
import LineTally.Tally

/-!
# The consuming loop

A consumer pops lines and counts those that match, until a pop finds nothing.  If the predicate
gives up on a line, the consumer stops at once, says so in the log, and its tally is that of a
worker that failed: the count of what it had done is lost, and the lines behind are left to others.
-/

namespace LineTally

/-- What a predicate does with a line. -/
structure Verdict where
  /-- What it does to the queue before it answers. -/
  actions : List Queue.Action := []
  /-- Whether the line matches, unless the predicate gives up with a message. -/
  answer : Except String Bool

/-- A test of lines. -/
abbrev Predicate := String → Verdict

/-- The predicate that only answers, and always does. -/
def Predicate.ofTest (matches? : String → Bool) : Predicate :=
  fun line => { answer := .ok (matches? line) }

/-- What a consumer has counted so far. -/
structure Counts where
  /-- The lines that matched. -/
  matched : Count := 0
  /-- The lines that were taken and tested. -/
  consumed : Count := 0
  deriving DecidableEq, Repr

/-- What has been counted after one more line; if a count faults, what was counted by then. -/
def Counts.add (counts : Counts) (matches? : Bool) : Except Counts Counts :=
  let matched := if matches? then counts.matched.succ else .ok counts.matched
  match matched with
  | .error _ => .error counts
  | .ok matched =>
    match counts.consumed.succ with
    | .error _ => .error { counts with matched }
    | .ok consumed => .ok { matched, consumed }

/-- Where a consumer is. -/
inductive Consumer where
  /-- In a pop. -/
  | popping (counts : Counts) (pop : Queue.Pop String)
  /-- In the predicate, with these actions still to come. -/
  | testing (counts : Counts) (line : String) (actions : List Queue.Action)
  /-- In the predicate, which acts on the queue. -/
  | acting (counts : Counts) (line : String) (actions : List Queue.Action)
    (inside : Queue.Acting)
  /-- The loop has ended. -/
  | finished (tally : WorkerTally)

namespace Consumer

variable {ι : Type} [DecidableEq ι]

/-- The start of the loop. -/
def start : Consumer :=
  .popping {} .arriving

/-- What a consumer that failed writes to the log. -/
def failureNotice (index : Count) (counts : Counts) : LogLine :=
  ⟨.error, s!"Worker {index} failed after {counts.consumed} lines; its count is discarded"⟩

/-- A step of a consumer. -/
structure Step (ι : Type) where
  /-- The queue after it. -/
  queue : Queue ι String
  /-- Where the consumer is after it. -/
  consumer : Consumer
  /-- The line that left the queue by it. -/
  transfer : Option (Queue.Transfer String) := none
  /-- What it wrote to the log. -/
  log : List LogLine := []

/-- The consumer stops without a result. -/
def fail (queue : Queue ι String) (index : Count) (counts : Counts) : Step ι :=
  { queue
    consumer := .finished (WorkerTally.lost index)
    log := [failureNotice index counts] }

/-- The consumer stops with its counts. -/
def succeed (queue : Queue ι String) (index : Count) (counts : Counts) : Step ι :=
  { queue
    consumer := .finished {
      index, matched := counts.matched, consumed := counts.consumed, failed := false } }

/-- The predicate answers. -/
def judge (queue : Queue ι String) (index : Count) (counts : Counts) :
    Except String Bool → Step ι
  | .error _ => fail queue index counts
  | .ok matches? =>
    match counts.add matches? with
    | .error counts => fail queue index counts
    | .ok counts => { queue, consumer := .popping counts .arriving }

/-- The consumer goes on after a pop. -/
def afterPop (predicate : Predicate) (queue : Queue ι String) (index : Count)
    (counts : Counts) : Queue.PopResult String → Step ι
  | .error _ => fail queue index counts
  | .ok none => succeed queue index counts
  | .ok (some line) => { queue, consumer := .testing counts line (predicate line).actions }

/-- The next step of a consumer. -/
def step (predicate : Predicate) (index : Count) (queue : Queue ι String) (me : ι) (pick : Nat) :
    Consumer → Option (Step ι)
  | .popping counts pop => (pop.step queue me pick).map fun move =>
    match move.progress with
    | .at pop => {
        queue := move.queue
        consumer := .popping counts pop
        transfer := move.transfer }
    | .returned result =>
      { afterPop predicate move.queue index counts result with transfer := move.transfer }
  | .testing counts line actions =>
    match actions with
    | [] => some (judge queue index counts (predicate line).answer)
    | action :: actions =>
      some { queue, consumer := .acting counts line actions action.start }
  | .acting counts line actions inside => (inside.step queue me).map fun acted =>
    match acted.progress with
    | .at inside => {
        queue := acted.queue
        consumer := .acting counts line actions inside
        log := acted.log }
    | .returned _ => {
        queue := acted.queue, consumer := .testing counts line actions, log := acted.log }
  | .finished _ => none

end Consumer

end LineTally
