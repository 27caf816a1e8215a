import LineTally.Proofs.Queue.Release
import LineTally.Proofs.Scan.Outcome

/-!
# How soon a scan stops when it is asked to

A request for shutdown returns when everybody at the queue has been released.  From then on no line
enters or leaves the queue, and nobody passes a look at the flag.  What each thread has in hands by
then is all that it still works on: the reader may be in its source, having looked at the flag
before, and comes back from there once; a worker may have taken a line, and its test answers on this
line.
-/

namespace LineTally

open Queue

/-! ## The reader and its source -/

namespace Reader

variable {ι : Type} [DecidableEq ι]

/-- The reader is in its source. -/
def isInSource : Reader → Bool
  | .asking .. | .acting .. => true
  | _ => false

/-- The reader is about to look at the flag, before it asks for a line. -/
def isChecking : Reader → Bool
  | .checking .. => true
  | _ => false

/-- The next thing that the source does is to answer the reader. -/
def isAnswered : Reader → Bool
  | .asking (.act _ :: _) _ => false
  | .asking .. => true
  | _ => false

theorem isInSource_receive (rest : List Entry) (reading : Reading) (text : String) :
    (receive rest reading text).isInSource = false := by
  unfold receive
  split
  · rfl
  · dsimp only
    split
    · split <;> rfl
    · rfl

theorem isInSource_afterPush (rest : List Entry) (reading : Reading) (result : PushResult) :
    (afterPush rest reading result).1.isInSource = false := by
  unfold afterPush
  split
  · split <;> rfl
  · rfl
  · rfl
  · rfl

/-- Once the queue is cancelled the reader does not come into its source, and an answer brings it
out of there. -/
theorem inSource_of_cancelled {queue : Queue ι String} {me : ι} {pick : Nat} {reader : Reader}
    {step : Step ι} (cancelled : queue.cancelled = true)
    (stepped : reader.step queue me pick = some step) :
    (if reader.isAnswered then 1 else 0) + (if step.reader.isInSource then 1 else 0) ≤
      if reader.isInSource then 1 else 0 := by
  cases reader with
  | checking rest reading =>
      simp only [Reader.step, if_pos cancelled] at stepped
      cases stepped
      exact Nat.le_refl 0
  | asking rest reading =>
      cases stepped
      cases rest with
      | nil => exact Nat.le_refl 1
      | cons entry rest =>
          cases entry with
          | line text =>
              simp only [ask, isInSource_receive]
              exact Nat.le_refl 1
          | failure | fault | act => exact Nat.le_refl 1
  | acting rest reading inside =>
      rcases Option.map_eq_some_iff.mp stepped with ⟨acted, moved, rfl⟩
      cases progress : acted.progress <;> exact Nat.le_refl 1
  | pushing rest reading push =>
      rcases Option.map_eq_some_iff.mp stepped with ⟨move, moved, rfl⟩
      cases progress : move.progress with
      | «at» next => exact Nat.le_refl 0
      | returned result =>
          simp only [isInSource_afterPush]
          exact Nat.le_refl 0
  | ending result mark =>
      rcases Option.map_eq_some_iff.mp stepped with ⟨move, moved, rfl⟩
      cases progress : move.progress <;> exact Nat.le_refl 0
  | finished result => cases stepped

end Reader

/-! ## A consumer and its line -/

namespace Consumer

/-- The line that a consumer is testing. -/
def hand? : Consumer → Option String
  | .testing _ line _ | .acting _ line _ _ => some line
  | .popping .. | .finished _ => none

/-- The predicate answers when a consumer goes on like this. -/
def answers : Consumer → Consumer → Bool
  | .testing .., .acting .. => false
  | .testing .., _ => true
  | _, _ => false

/-- When the predicate answers, the consumer has no line any more. -/
theorem of_judge {ι : Type} (queue : Queue ι String) (index : Count) (counts : Counts)
    (line : String) (answer : Except String Bool) :
    (testing counts line []).answers (judge queue index counts answer).consumer = true ∧
      (judge queue index counts answer).consumer.hand? = none := by
  cases answer with
  | error message => exact ⟨rfl, rfl⟩
  | ok matches? => cases added : counts.add matches? <;> simp [judge, added, fail, answers, hand?]

end Consumer

namespace Scan

/-! ## Requests that return -/

/-- A step that moves no line has no line on its way. -/
theorem not_mem_ofTransfer {event : Event} {worker : Nat}
    (still : ∀ transfer, event ≠ .ofTransfer worker transfer)
    (transfer : Option (Transfer String)) :
    event ∉ (transfer.map (Event.ofTransfer worker)).toList := by
  cases transfer with
  | none => simp
  | some transfer => simpa using still transfer

theorem not_mem_logged {event : Event} (silent : ∀ line, event ≠ .logged line)
    (log : List LogLine) : event ∉ log.map Event.logged := by
  simpa [eq_comm] using fun line _ => silent line

/-- The coordinator writes to the log, and tells of a failure of the source. -/
theorem Coordinator.Turn.not_mem {state : State} {before after : Coordinator}
    {events : List Event} (turn : Turn state before after events) {event : Event}
    (silent : ∀ line, event ≠ .logged line) (well : ∀ message, event ≠ .sourceFailed message) :
    event ∉ events := by
  cases turn with
  | losesReader | joinsDead => simpa using silent _
  | @announces reading =>
      cases reading.error with
      | none => simp
      | some message => simpa using well message
  | _ => simp

theorem shutDown_ne_ofTransfer (worker : Nat) (transfer : Transfer String) :
    .shutDown ≠ Event.ofTransfer worker transfer := by
  cases transfer <;> nofun

/-- A request of the source returns when it gives the lock back. -/
theorem leaving_of_reader {before : Reader} {step : Reader.Step Thread}
    (granted : .shutDown ∈ readerEvents before step) :
    ∃ first, before.call = .cancel (.leaving first) ∧
      step.reader.call ≠ .cancel (.leaving first) := by
  unfold readerEvents at granted
  rw [List.mem_append, List.mem_append, List.mem_append] at granted
  rcases granted with ((asked | moved) | logged) | granted
  · split at asked <;> simp at asked
  · exact absurd moved (not_mem_ofTransfer (shutDown_ne_ofTransfer 0) step.transfer)
  · exact absurd logged (not_mem_logged (by simp) step.log)
  · split at granted
    next first rest reading there =>
      rw [there]
      exact ⟨first, rfl, nofun⟩
    · cases granted

/-- A request of a test returns when it gives the lock back. -/
theorem leaving_of_consumer {index : Nat} {before : Consumer} {step : Consumer.Step Thread}
    (granted : .shutDown ∈ Worker.consumerEvents index before step) :
    ∃ first, before.call = .cancel (.leaving first) ∧
      step.consumer.call ≠ .cancel (.leaving first) := by
  unfold Worker.consumerEvents at granted
  rw [List.mem_append, List.mem_append, List.mem_append] at granted
  rcases granted with ((moved | judged) | logged) | granted
  · exact absurd moved (not_mem_ofTransfer (shutDown_ne_ofTransfer index) step.transfer)
  · split at judged <;> simp at judged
  · exact absurd logged (not_mem_logged (by simp) step.log)
  · split at granted
    next first counts line actions there =>
      rw [there]
      exact ⟨first, rfl, nofun⟩
    · cases granted

/-- Every other request returns when it gives the lock back, as well. -/
theorem leaving_of_requester {queue : Queue Thread String} {me : Thread} {inside : Acting}
    {acted : Acted Thread String} (shuts : inside.action = .shutdown)
    (stepped : inside.step queue me = some acted)
    (granted : .shutDown ∈ (Requester.after acted.progress).2) :
    ∃ first, (inside.call : Call String) = .cancel (.leaving first) ∧
      (Requester.after acted.progress).1.call ≠ .cancel (.leaving first) := by
  cases progress : acted.progress with
  | «at» next =>
      rw [progress] at granted
      cases granted
  | returned answer =>
      cases inside with
      | shuttingDown call =>
          rcases Option.map_eq_some_iff.mp stepped with ⟨move, inner, rfl⟩
          cases returns : move.progress with
          | «at» next => simp [returns] at progress
          | returned first =>
              rw [Cancel.eq_of_returned inner returns]
              exact ⟨first, rfl, nofun⟩
      | cancelling | ending | raisingFlag => cases shuts

/-- A worker has nobody else's requests to answer. -/
theorem Worker.Turn.leaving {around : Surroundings} {shared next : Shared} {number : Count}
    {worker after : Worker} {events : List Event}
    (turn : Worker.Turn around shared number worker next after events)
    (granted : .shutDown ∈ events) :
    ∃ first, worker.call = .cancel (.leaving first) ∧ after.call ≠ .cancel (.leaving first) := by
  cases turn with
  | consumes stepped => exact leaving_of_consumer granted
  | records => exact absurd granted (not_mem_logged (by simp) _)
  | _ => simp at granted

/-- A request for shutdown returns when it gives the lock back, whoever made it. -/
theorem Moved.leaving {around : Surroundings} {state next : State} {thread : Thread}
    {events : List Event} (tame : state.Tame) (moved : Moved around state thread next events)
    (granted : .shutDown ∈ events) :
    ∃ first, state.calls thread = .cancel (.leaving first) ∧
      next.calls thread ≠ .cancel (.leaving first) := by
  cases moved with
  | reader stepped => exact leaving_of_reader granted
  | @worker pick worker step number there stepped =>
      rcases List.getElem?_eq_some_iff.mp there with ⟨inside, -⟩
      have after : State.calls
          { state with
            shared := step.shared, workers := state.workers.set number.toNat step.worker }
          (.worker number.toNat) = step.worker.call :=
        calls_worker (List.getElem?_set_self inside)
      rw [calls_worker there, after]
      exact (Worker.turn stepped).leaving granted
  | @requester index inside acted there stepped =>
      rcases List.getElem?_eq_some_iff.mp there with ⟨within, -⟩
      have after : State.calls
          { state with
            shared := { state.shared with queue := acted.queue }
            requesters := state.requesters.set index (Requester.after acted.progress).1 }
          (.requester index) = (Requester.after acted.progress).1.call :=
        calls_requester (List.getElem?_set_self within)
      rw [calls_requester there, after]
      refine leaving_of_requester (tame.within.requesters index _ there) stepped ?_
      exact (List.mem_append.mp granted).resolve_left (not_mem_logged (by simp) _)
  | coordinator stepped => exact absurd granted ((Coordinator.turn stepped).not_mem (by simp) (by simp))

/-- What holds of a scan in which requests for shutdown return: nobody sleeps while the lock is
given back, and where one has returned, everybody has been released. -/
structure State.Heeded (source : List Entry) (events : List Event) (state : State) : Prop where
  queued : state.Queued source events
  cleared : Cleared state.shared.queue state.calls
  released : .shutDown ∈ events → Released state.shared.queue state.calls

theorem State.Heeded.step {around : Surroundings} {source : List Entry} {state next : State}
    {thread : Thread} {before events : List Event} (only : around.ShutsDown)
    (heeded : state.Heeded source before) (moved : Moved around state thread next events) :
    next.Heeded source (before ++ events) := by
  have consistent := heeded.queued.consistent
  rcases moved.moves with ⟨transfer, moves, -, -⟩
  refine ⟨heeded.queued.step only moved, heeded.cleared.moves consistent moves, ?_⟩
  intro granted
  rcases List.mem_append.mp granted with early | now
  · exact ((heeded.released early).moves moves).1
  · rcases moved.leaving heeded.queued.tame now with ⟨first, leaving, left⟩
    exact .of_return heeded.cleared consistent moves leaving left

theorem heeded_of_run {around : Surroundings} (only : around.ShutsDown) {capacity : Count}
    (positive : 0 < capacity.toNat) {workers : Nat} {source : List Feed} {requests : Nat}
    {events : List Event} {last : State}
    (run : (system around).Run (State.start capacity.toNat workers source requests) events last) :
    last.Heeded (source.map Feed.entry) events := by
  refine run.keeps ?_ fun _ _ _ _ _ _ heeded stepped => heeded.step only (moved_of_step stepped)
  exact ⟨.start positive _ _ _, .start (calls_start_idle _ _ _ _) _, nofun⟩

/-! ## What workers have in their hands -/

/-- A worker that had a line in its hands has answered on it, or has it still; it has no other. -/
def Spends (answers : Nat) (before after : Option String) : Prop :=
  answers = 0 ∧ after = before ∨ answers = 1 ∧ before.isSome = true ∧ after = none

theorem Spends.trans {early late : Nat} {before between after : Option String}
    (first : Spends early before between) (second : Spends late between after) :
    Spends (early + late) before after := by
  rcases first with ⟨rfl, rfl⟩ | ⟨rfl, some, rfl⟩
  · rwa [Nat.zero_add]
  · rcases second with ⟨rfl, rfl⟩ | ⟨-, none, -⟩
    · exact Or.inr ⟨rfl, some, rfl⟩
    · cases none

theorem count_judged_ofTransfer (index worker : Nat) (transfer : Option (Transfer String)) :
    (transfer.map (Event.ofTransfer worker)).toList.count (.judged index) = 0 := by
  refine List.count_eq_zero.mpr (not_mem_ofTransfer (fun transfer => ?_) transfer)
  cases transfer <;> nofun

theorem count_judged_logged (index : Nat) (log : List LogLine) :
    (log.map Event.logged).count (.judged index) = 0 :=
  List.count_eq_zero.mpr (not_mem_logged (by simp) log)

theorem count_judged_consumerEvents (index other : Nat) (before : Consumer)
    (step : Consumer.Step Thread) :
    (Worker.consumerEvents index before step).count (.judged other) =
      if index = other ∧ before.answers step.consumer = true then 1 else 0 := by
  unfold Worker.consumerEvents
  simp only [List.count_append, count_judged_ofTransfer, count_judged_logged, Nat.zero_add,
    Nat.add_zero]
  generalize step.consumer = after
  cases before with
  | testing => cases after <;> simp [Consumer.answers, List.count_singleton]
  | acting =>
      cases after with
      | testing =>
          dsimp only [Consumer.answers]
          split <;> simp
      | _ => simp [Consumer.answers]
  | popping | finished => simp [Consumer.answers]

theorem Consumer.spends {predicate : Predicate} {number : Count} {queue : Queue Thread String}
    {me : Thread} {pick : Nat} {consumer : Consumer} {step : Consumer.Step Thread}
    (stepped : consumer.step predicate number queue me pick = some step)
    (heeds : consumer.call.Heeds) :
    Spends (if consumer.answers step.consumer then 1 else 0) consumer.hand?
      step.consumer.hand? := by
  cases consumer with
  | popping counts pop =>
      rcases Option.map_eq_some_iff.mp stepped with ⟨move, moved, rfl⟩
      rcases Pop.step_taken moved with
        ⟨-, ⟨next, progress, -⟩ | ⟨result, rfl, progress, -⟩⟩
      · rw [progress]
        exact Or.inl ⟨rfl, rfl⟩
      · rw [progress]
        cases heeds
        exact Or.inl ⟨rfl, rfl⟩
  | testing counts line actions =>
      cases actions with
      | nil =>
          cases stepped
          rcases Consumer.of_judge queue number counts line (predicate line).answer with
            ⟨answers, put⟩
          simp only [answers, put]
          exact Or.inr ⟨rfl, rfl, rfl⟩
      | cons action actions =>
          cases stepped
          exact Or.inl ⟨rfl, rfl⟩
  | acting counts line actions inside =>
      rcases Option.map_eq_some_iff.mp stepped with ⟨acted, moved, rfl⟩
      cases progress : acted.progress <;> exact Or.inl ⟨rfl, rfl⟩
  | finished tally => cases stepped

/-- The line that a worker is testing. -/
def Worker.hand? : Worker → Option String
  | .consuming consumer => consumer.hand?
  | _ => none

/-- A worker that sees the flag at its next pop answers on the line that it has, if any. -/
theorem Worker.Turn.spends {around : Surroundings} {shared next : Shared} {number : Count}
    {worker after : Worker} {events : List Event}
    (turn : Worker.Turn around shared number worker next after events)
    (heeds : worker.call.Heeds) :
    Spends (events.count (.judged number.toNat)) worker.hand? after.hand? ∧
      ∀ other, other ≠ number.toNat → events.count (.judged other) = 0 := by
  have arrives := afterRendezvous_of (·.hand? = none) rfl rfl number.toNat
  cases turn with
  | consumes stepped =>
      have spends := Consumer.spends stepped heeds
      refine ⟨?_, fun other different => ?_⟩
      · rw [count_judged_consumerEvents]
        simp only [true_and]
        exact spends
      · simp [count_judged_consumerEvents, different.symm]
  | records =>
      rw [count_judged_logged]
      exact ⟨Or.inl ⟨rfl, rfl⟩, fun other _ => count_judged_logged other _⟩
  | meets | resumes => exact ⟨Or.inl ⟨rfl, arrives _⟩, fun _ _ => rfl⟩
  | _ => exact ⟨Or.inl ⟨rfl, rfl⟩, fun _ _ => rfl⟩

/-- The line that the worker of that number is testing. -/
def State.hand? (state : State) (index : Nat) : Option String :=
  state.workers[index]?.bind Worker.hand?

theorem Moved.spends {around : Surroundings} {state next : State} {thread : Thread}
    {events : List Event} (moved : Moved around state thread next events)
    (heeds : ∀ thread, (state.calls thread).Heeds) (index : Nat) :
    Spends (events.count (.judged index)) (state.hand? index) (next.hand? index) := by
  cases moved with
  | @worker pick worker step number there stepped =>
      rcases List.getElem?_eq_some_iff.mp there with ⟨inside, -⟩
      have heeds := heeds (.worker number.toNat)
      rw [calls_worker there] at heeds
      rcases (Worker.turn stepped).spends heeds with ⟨own, others⟩
      by_cases same : index = number.toNat
      · subst same
        rw [State.hand?, State.hand?, there, List.getElem?_set_self inside]
        exact own
      · refine Or.inl ⟨others index same, ?_⟩
        simp [State.hand?, List.getElem?_set_ne (Ne.symm same)]
  | @reader pick step stepped =>
      refine Or.inl ⟨?_, rfl⟩
      unfold readerEvents
      simp only [List.count_append, count_judged_ofTransfer, count_judged_logged]
      split <;> split <;> rfl
  | @requester place inside acted there stepped =>
      refine Or.inl ⟨?_, rfl⟩
      rw [List.count_append, count_judged_logged]
      cases acted.progress <;> rfl
  | coordinator stepped =>
      exact Or.inl ⟨List.count_eq_zero.mpr ((Coordinator.turn stepped).not_mem (by simp) (by simp)), rfl⟩

/-! ## After a request -/

/-- How often the reader found the flag clear, and went on to ask for a line. -/
def begun (records : List (System.Record State Thread Event)) : Nat :=
  records.countP fun record =>
    record.thread = .reader && record.before.reader.isChecking &&
      !record.before.shared.queue.cancelled

/-- How often the source answered the reader. -/
def answered (records : List (System.Record State Thread Event)) : Nat :=
  records.countP fun record => record.thread = .reader && record.before.reader.isAnswered

theorem begun_append (before after : List (System.Record State Thread Event)) :
    begun (before ++ after) = begun before + begun after :=
  List.countP_append

theorem answered_append (before after : List (System.Record State Thread Event)) :
    answered (before ++ after) = answered before + answered after :=
  List.countP_append

/-- A worker that has answered had a line in its hands. -/
theorem hand_of_spends {answers : Nat} {before after : Option String}
    (spends : Spends answers before after) (some : 0 < answers) :
    ∃ line, before = Option.some line := by
  rcases spends with ⟨rfl, -⟩ | ⟨-, held, -⟩
  · exact absurd some (Nat.lt_irrefl 0)
  · exact Option.isSome_iff_exists.mp held

/-- What is left of a scan when a request for shutdown has returned, once these steps were taken
more. -/
structure Halting (middle : State) (records : List (System.Record State Thread Event))
    (state : State) : Prop where
  released : Released state.shared.queue state.calls
  /-- The queue holds what it held. -/
  ring : state.shared.queue.ring = middle.shared.queue.ring
  unput : puts (System.observed records) = []
  untaken : takes (System.observed records) = []
  /-- The reader does not ask for another line. -/
  unbegun : begun records = 0
  /-- If it was in the source, it comes back from there. -/
  answers : answered records + (if state.reader.isInSource then 1 else 0) ≤
    if middle.reader.isInSource then 1 else 0
  /-- Each worker answers on the line in its hands, and takes no other. -/
  spends : ∀ index, Spends ((System.observed records).count (.judged index)) (middle.hand? index)
    (state.hand? index)
  /-- The line that a worker answers on is the one that it had. -/
  held : ∀ record ∈ records, ∀ index, .judged index ∈ record.events →
    ∃ line, record.before.hand? index = some line ∧ middle.hand? index = some line

theorem Halting.start {state : State} (released : Released state.shared.queue state.calls) :
    Halting state [] state := by
  refine ⟨released, rfl, rfl, rfl, rfl, ?_, fun _ => Or.inl ⟨rfl, rfl⟩, by simp⟩
  simp [answered]

/-- The reader does not come into its source again, and an answer brings it out of there. -/
theorem Moved.inSource {around : Surroundings} {state next : State} {thread : Thread}
    {events : List Event} (moved : Moved around state thread next events)
    (cancelled : state.shared.queue.cancelled = true) :
    answered [⟨thread, state, events⟩] + (if next.reader.isInSource then 1 else 0) ≤
      if state.reader.isInSource then 1 else 0 := by
  cases moved with
  | reader stepped => simpa [answered] using Reader.inSource_of_cancelled cancelled stepped
  | worker | requester | coordinator => simp [answered]

theorem Halting.step {around : Surroundings} {middle state next : State} {thread : Thread}
    {before : List (System.Record State Thread Event)} {events : List Event}
    (halting : Halting middle before state) (moved : Moved around state thread next events) :
    Halting middle (before ++ [⟨thread, state, events⟩]) next := by
  have released := halting.released
  rcases moved.moves with ⟨transfer, moves, put, took⟩
  rcases released.moves moves with ⟨later, ring, rfl⟩
  have spends := moved.spends released.heeds
  have observed : System.observed (before ++ [⟨thread, state, events⟩]) =
      System.observed before ++ events := by simp [System.observed]
  refine ⟨later, ring.trans halting.ring, ?_, ?_, ?_, ?_, ?_, ?_⟩
  · rw [observed, puts_append, halting.unput, put]
    rfl
  · rw [observed, takes_append, halting.untaken, List.map_eq_nil_iff.mp took]
    rfl
  · rw [begun_append, halting.unbegun]
    simp [begun, released.cancelled]
  · rw [answered_append]
    have inSource := moved.inSource released.cancelled
    have earlier := halting.answers
    omega
  · intro index
    rw [observed, List.count_append]
    exact (halting.spends index).trans (spends index)
  · intro record member index judged
    rcases List.mem_append.mp member with early | now
    · exact halting.held record early index judged
    · cases List.mem_singleton.mp now
      rcases hand_of_spends (spends index) (List.count_pos_iff.mpr judged) with ⟨line, held⟩
      refine ⟨line, held, ?_⟩
      rcases halting.spends index with ⟨-, same⟩ | ⟨-, -, empty⟩
      · exact same ▸ held
      · rw [held] at empty
        cases empty

theorem halting_of_run {around : Surroundings} {middle last : State}
    {records : List (System.Record State Thread Event)}
    (late : (system around).recorded.Run middle records last)
    (released : Released middle.shared.queue middle.calls) : Halting middle records last := by
  refine late.keeps (.start released) fun before state thread pick next seen halting stepped => ?_
  rcases System.step_of_recorded stepped with ⟨events, moved, rfl⟩
  exact halting.step (moved_of_step moved)

/-- A worker has taken the line that it is testing. -/
theorem State.Manned.mem_of_hand {around : Surroundings} {state : State}
    {taken : List (Nat × String)} (manned : state.Manned around taken) {index : Nat}
    {line : String} (held : state.hand? index = some line) : (index, line) ∈ taken := by
  rcases Option.bind_eq_some_iff.mp held with ⟨worker, there, held⟩
  rcases manned.each index worker there with ⟨number, -, account⟩
  rw [mem_iff_mem_ofThread]
  cases worker with
  | consuming consumer =>
      have account := account.2
      cases consumer with
      | testing counts other actions | acting counts other actions inside =>
          cases held
          rcases account with ⟨lines, taken, -⟩
          simp [taken]
      | popping | finished => cases held
  | _ => cases held

/-- Once a request for shutdown has returned, whoever made it and wherever it caught the others, no
line enters or leaves the queue.  The reader never goes past its look at the flag again, whatever
lines its source still has; it may be in the source, or on its way there from its last look, and is
answered once then.  Each worker answers once at most, on a line that it had taken before. -/
theorem shutdown_leaves_one_line_each {capacity workers : Count} (positive : 0 < capacity.toNat)
    (test : Test) (sink : Tally → Option Fault) (source : List Feed) (requests : Nat)
    {before : List Event} {middle : State}
    (early : (system (.ofTest test sink)).Run
      (State.start capacity.toNat workers.toNat source requests) before middle)
    (granted : .shutDown ∈ before) {records : List (System.Record State Thread Event)}
    {last : State} (late : (system (.ofTest test sink)).recorded.Run middle records last) :
    (puts (System.observed records) = [] ∧ takes (System.observed records) = [] ∧
      last.shared.queue.ring = middle.shared.queue.ring) ∧
    (begun records = 0 ∧
      answered records + (if last.reader.isInSource then 1 else 0) ≤
        if middle.reader.isInSource then 1 else 0) ∧
    ∀ index : Nat, (System.observed records).count (.judged index) ≤ 1 ∧
      ∀ record ∈ records, .judged index ∈ record.events →
        ∃ line, record.before.hand? index = some line ∧ middle.hand? index = some line ∧
          (index, line) ∈ takes before := by
  have only := Surroundings.ofTest_shutsDown test sink
  have released := (heeded_of_run only positive early).released granted
  have halting := halting_of_run late released
  refine ⟨⟨halting.unput, halting.untaken, halting.ring⟩, ⟨halting.unbegun, halting.answers⟩, ?_⟩
  intro index
  constructor
  · rcases halting.spends index with ⟨none, -⟩ | ⟨once, -⟩ <;> omega
  · intro record member judged
    rcases halting.held record member index judged with ⟨line, now, held⟩
    exact ⟨line, now, held, (sound_of_run only positive early).manned.mem_of_hand held⟩

/-- The request returns when the reader is about to ask for the first of several empty lines and the
worker is testing the line before them.  Each of them ends what it is doing, and does no more. -/
theorem shutdown_leaves_one_line_each_of_empty_lines :
    let source : List Feed := [.line "a", .line "", .line "", .line "b"]
    let scan := system (.ofTest (Test.ofPredicate fun _ => true) fun _ => none)
    let first : State := .start (1 : Count).toNat (1 : Count).toNat source 1
    let reading := scan.settle (fun _ => [.reader]) 8 first
    let testing := scan.settle (fun _ => [.worker 0]) 5 reading.1
    let middle := scan.settle (fun _ => [.requester 0]) 8 testing.1
    let before := reading.2 ++ testing.2 ++ middle.2
    let last := scan.recorded.settle State.order 60 middle.1
    .shutDown ∈ before ∧ middle.1.reader.isInSource = true ∧ middle.1.hand? 0 = some "a" ∧
      answered last.2 = 1 ∧ (System.observed last.2).count (.judged 0) = 1 ∧
      (last.1.summary?.map fun summary => summary.linesRead.toNat) = some 2 ∧
      begun last.2 = 0 ∧ puts (System.observed last.2) = [] ∧
      ∀ record ∈ last.2, .judged 0 ∈ record.events →
        ∃ line, record.before.hand? 0 = some line ∧ middle.1.hand? 0 = some line ∧
          (0, line) ∈ takes before := by
  intro source scan first reading testing middle before last
  have granted : .shutDown ∈ before := by decide +kernel
  have early : scan.Run first before middle.1 :=
    ((System.run_settle ..).trans (System.run_settle ..)).trans (System.run_settle ..)
  rcases shutdown_leaves_one_line_each (by decide) _ _ source 1 early granted
    (System.run_settle scan.recorded State.order 60 middle.1) with
    ⟨⟨unput, -, -⟩, ⟨unbegun, -⟩, answers⟩
  exact ⟨granted, by decide +kernel, by decide +kernel, by decide +kernel, by decide +kernel,
    by decide +kernel, unbegun, unput, (answers 0).2⟩

end Scan

end LineTally
