import LineTally.Proofs.Scan.Leaving
import LineTally.Proofs.Scan.Progress
import LineTally.Proofs.Scan.Weight

/-!
# What an undisturbed scan comes to

If nobody asks for shutdown and the test answers on every line, a worker leaves its loop only when
the stream has ended and the queue is empty.  So the last worker does not find an open stream,
nobody ever cancels the queue, and the reader comes to the end of its source.  What the scan
returns is then what one would count line by line, whatever the order of the steps, the capacity of
the queue and the number of workers.
-/

namespace LineTally

open Queue

/-! ## Workers that leave an ended stream -/

/-- The consumer has left its loop only if the queue is drained. -/
def Consumer.Settled {ι : Type} (queue : Queue ι String) : Consumer → Prop
  | .finished _ => queue.Drained
  | _ => True

theorem Consumer.settled_of_step {ι : Type} [DecidableEq ι] {predicate : Predicate}
    {index : Count} {queue : Queue ι String} {me : ι} {pick : Nat} {consumer : Consumer}
    {step : Step ι} {taken : List String}
    (stepped : consumer.step predicate index queue me pick = some step)
    (answers : ∀ line, predicate.Answers line) (ground : consumer.call.Grounded queue)
    (clear : step.queue.cancelled = false)
    (account : step.consumer.Account predicate index taken) :
    step.consumer.Settled step.queue := by
  have excused := Consumer.excused_of_step stepped ground
  generalize step.consumer = after at account excused
  cases after with
  | finished tally =>
      rcases excused with flag | drained | failed
      · rw [clear] at flag
        cases flag
      · exact drained
      · rw [(account.exact answers).2.2] at failed
        cases failed
  | popping | testing | acting => trivial

namespace Scan

/-- The worker is past its loop only if the queue is drained, and it does not cancel it. -/
def Worker.Settled (queue : Queue Thread String) : Worker → Prop
  | .consuming consumer => consumer.Settled queue
  | .checking | .cancelling _ => False
  | _ => queue.Drained

theorem Worker.Settled.mono {queue next : Queue Thread String} {worker : Worker}
    (settled : worker.Settled queue) (drained : queue.Drained → next.Drained) :
    worker.Settled next := by
  cases worker with
  | consuming consumer =>
      cases consumer with
      | finished tally => exact drained settled
      | popping | testing | acting => trivial
  | checking | cancelling => exact settled
  | _ => exact drained settled

theorem Worker.Turn.settled {around : Surroundings} {shared next : Shared} {number : Count}
    {worker after : Worker} {events : List Event} {slot : Option WorkerTally}
    {taken : List String} (turn : Worker.Turn around shared number worker next after events)
    (settled : worker.Settled shared.queue) (answers : ∀ line, around.predicate.Answers line)
    (ground : worker.call.Grounded shared.queue) (clear : next.queue.cancelled = false)
    (account : after.Account around.predicate number taken slot) : after.Settled next.queue := by
  have arrives (drained : shared.queue.Drained) :=
    afterRendezvous_of (·.Settled shared.queue) drained drained number.toNat
  cases turn with
  | consumes stepped => exact Consumer.settled_of_step stepped answers ground clear account.2
  | findsOpen unended =>
      rw [settled.1] at unended
      cases unended
  | findsFlag | abandons | cancels | cancelled => exact settled.elim
  | meets | resumes => exact arrives settled _
  | _ => exact settled

/-- Nobody has cancelled the queue, nobody will, and who has left the loop left it at its end. -/
structure State.Undisturbed (state : State) : Prop where
  clear : state.shared.queue.cancelled = false
  alone : state.Within fun _ => False
  settled : ∀ (index : Nat) (worker : Worker), state.workers[index]? = some worker →
    worker.Settled state.shared.queue

namespace State.Undisturbed

variable {around : Surroundings} {source : List Entry} {workers : Nat} {state next : State}
variable {thread : Thread} {before events : List Event}

theorem start (capacity workers : Nat) {source : List Feed} (still : .shutdown ∉ source) :
    (State.start capacity workers source 0).Undisturbed where
  clear := rfl
  alone := .start capacity workers fun asked => asked.elim still (absurd rfl)
  settled index worker there := by
    rw [List.eq_of_mem_replicate (List.mem_of_getElem? there)]
    trivial

/-- Nobody is about to cancel the queue. -/
theorem calls_ne_cancel (undisturbed : state.Undisturbed) (thread : Thread) (place : Cancel) :
    state.calls thread ≠ .cancel place := by
  intro cancels
  rcases undisturbed.alone.cancelling cancels with ⟨index, -, there⟩
  exact undisturbed.settled index _ there

/-- No step disturbs a scan whose test always answers, and does nothing else. -/
theorem step (only : around.Within fun _ => False)
    (answers : ∀ line, around.predicate.Answers line) (undisturbed : state.Undisturbed)
    (sound : state.Sound around source workers before)
    (after : next.Sound around source workers (before ++ events))
    (moved : Moved around state thread next events) : next.Undisturbed := by
  have drained := moved.drained
  have clear : next.shared.queue.cancelled = false := by
    rcases moved.moves with ⟨transfer, moves, -, -⟩
    rw [moves.advances.cancelled_eq (undisturbed.calls_ne_cancel thread)
      (sound.queued.tame.calls thread).1]
    exact undisturbed.clear
  refine ⟨clear, undisturbed.alone.step only moved, ?_⟩
  cases moved with
  | reader | requester | coordinator =>
      intro index worker there
      exact (undisturbed.settled index worker there).mono drained
  | @worker _ worker step number there stepped =>
      have inside := (List.getElem?_eq_some_iff.mp there).1
      apply forall_of_set
      · rcases after.manned.each number.toNat step.worker (List.getElem?_set_self inside) with
          ⟨mine, same, account⟩
        cases Count.ext same
        have ground := (sound.queued.consistent.fits (.worker number.toNat)).ground
        rw [calls_worker there] at ground
        exact (Worker.turn stepped).settled (undisturbed.settled _ _ there) answers ground
          clear account
      · exact fun index other _ there => (undisturbed.settled index other there).mono drained

end State.Undisturbed

theorem undisturbed_of_run {around : Surroundings} (only : around.Within fun _ => False)
    (answers : ∀ line, around.predicate.Answers line) {capacity workers : Count}
    (positive : 0 < capacity.toNat) {source : List Feed} (still : .shutdown ∉ source)
    {events : List Event} {last : State}
    (run : (system around).Run (State.start capacity.toNat workers.toNat source 0) events last) :
    last.Undisturbed := by
  have shuts : around.ShutsDown := fun line action member => (only line action member).elim
  induction run with
  | refl => exact .start _ _ still
  | tail thread pick before stepped ih =>
      exact ih.step only answers (sound_of_run shuts positive before)
        (sound_of_run shuts positive (before.tail thread pick stepped)) (moved_of_step stepped)

section Returned

variable {around : Surroundings} {source : List Entry} {workers : Nat} {events : List Event}
variable {last : State} {summary : Summary}

/-- An undisturbed scan has taken every line that was put. -/
theorem takes_eq_puts (sound : last.Sound around source workers events)
    (undisturbed : last.Undisturbed) (some : 0 < workers)
    (returned : last.summary? = Option.some summary) :
    (takes events).map Prod.snd = puts events := by
  have inside : 0 < last.workers.length := by
    rwa [sound.number]
  have atEnd := (knows_of_summary sound returned).2.1 _ (List.getElem_mem inside)
  have settled := undisturbed.settled 0 _ (List.getElem?_eq_getElem inside)
  have drained : last.shared.queue.Drained := by
    generalize last.workers[0] = worker at atEnd settled
    cases worker with
    | ended | died => exact settled
    | _ => cases atEnd
  exact sound.takes_eq_puts_of_drained drained

/-- What the workers of an undisturbed scan come to. -/
theorem tally_of_undisturbed (sound : last.Sound around source workers events)
    (undisturbed : last.Undisturbed) (some : 0 < workers)
    (answers : ∀ line, around.predicate.Answers line)
    (returned : last.summary? = Option.some summary) :
    (∃ consumed : Count, summary.tally.consumed = .ok consumed ∧
      consumed.toNat = (puts events).length) ∧
      summary.tally.total.toNat = (puts events).countP around.predicate.accepts ∧
      summary.tally.failedWorkers = 0 ∧ summary.cancelled = false := by
  have all := takes_eq_puts sound undisturbed some returned
  rcases tally_of_answers sound answers returned with ⟨consumed, total, fine⟩
  rw [← List.length_map, all] at consumed
  rw [all] at total
  refine ⟨consumed, total, ?_, ?_⟩
  · exact List.countP_eq_zero.mpr fun tally member => by simp [fine tally member]
  · apply Bool.eq_false_iff.mpr
    intro cut
    have set := (knows_of_summary sound returned).2.2.2 cut
    rw [undisturbed.clear] at set
    cases set

end Returned

/-! ## What comes of it -/

/-- A source that gives these lines, and then ends or fails. -/
def Feed.ofLines (texts : List String) (failure : Option String) : List Feed :=
  texts.map .line ++ (failure.map .failure).toList

theorem Feed.shutdown_not_mem_ofLines (texts : List String) (failure : Option String) :
    .shutdown ∉ ofLines texts failure := by
  cases failure <;> simp [ofLines]

theorem Feed.yielded_ofLines (texts : List String) (failure : Option String) :
    yielded ((ofLines texts failure).map Feed.entry) = texts := by
  induction texts with
  | nil => cases failure <;> rfl
  | cons text rest ih => exact congrArg (text :: ·) ih

theorem Feed.closeOf_ofLines (texts : List String) (failure : Option String) :
    closeOf ((ofLines texts failure).map Feed.entry) =
      failure.elim .exhausted .failed := by
  induction texts with
  | nil => cases failure <;> rfl
  | cons text rest ih => exact ih

end Scan

/-- The summary says of these lines, and of how their source ended, what there is to say. -/
structure Summary.Exact (matches? : String → Bool) (texts : List String)
    (failure : Option String) (summary : Summary) : Prop where
  linesRead : summary.linesRead.toNat = texts.length
  produced : summary.produced.toNat = (nonEmpty texts).length
  consumed : summary.tally.consumed = .ok summary.produced
  total : summary.tally.total.toNat = (nonEmpty texts).countP matches?
  failed : summary.tally.failedWorkers = 0
  cancelled : summary.cancelled = false
  sourceError : summary.sourceError = failure

/-- There were more lines than can be counted: the reader faulted at the first of them that could
not be, and only the lines before it are counted. -/
structure Summary.Overrun (matches? : String → Bool) (texts : List String)
    (summary : Summary) : Prop where
  linesRead : summary.linesRead = 0
  produced : summary.produced = 0
  total : summary.tally.total.toNat = (nonEmpty (texts.take (Count.limit - 1))).countP matches?
  failed : summary.tally.failedWorkers = 0
  cancelled : summary.cancelled = false
  sourceError : summary.sourceError = some "line source panicked"

namespace Scan

/-- The summary is exact when the reader has come to the end of its source. -/
theorem exact_of_reading {matches? : String → Bool} {texts : List String}
    {failure : Option String} {summary : Summary} {reading : Reading}
    (of : reading.Of texts (nonEmpty texts)) (linesRead : summary.linesRead = reading.linesRead)
    (produced : summary.produced = reading.produced) (sourceError : summary.sourceError = failure)
    (consumed : ∃ consumed : Count, summary.tally.consumed = .ok consumed ∧
      consumed.toNat = (nonEmpty texts).length)
    (total : summary.tally.total.toNat = (nonEmpty texts).countP matches?)
    (failed : summary.tally.failedWorkers = 0) (cancelled : summary.cancelled = false) :
    (texts.length < Count.limit → summary.Exact matches? texts failure) ∧
      (Count.limit ≤ texts.length → summary.Overrun matches? texts) := by
  constructor
  · intro _
    rcases consumed with ⟨consumed, added, amount⟩
    have same : consumed = summary.produced := by
      apply Count.ext
      rw [amount, produced, of.produced]
    exact {
      linesRead := by rw [linesRead, of.linesRead]
      produced := by rw [produced, of.produced]
      consumed := by rw [added, same]
      total
      failed
      cancelled
      sourceError }
  · intro many
    exact absurd of.length_lt (Nat.not_lt.mpr many)

/-- Without a flag to stop for, the reader comes to the end of its source, or to more lines than can
be counted. -/
theorem exact_of_stopped {flagged : Prop} {matches? : String → Bool} {texts : List String}
    {failure : Option String} {summary : Summary} {put : List String}
    {result : Except Fault Reading} (clear : ¬ flagged)
    (stopped : Reader.Stopped flagged False ((Feed.ofLines texts failure).map Feed.entry) put
      result)
    (linesRead : summary.linesRead = (readingOf result).linesRead)
    (produced : summary.produced = (readingOf result).produced)
    (sourceError : summary.sourceError = (readingOf result).error)
    (consumed : ∃ consumed : Count, summary.tally.consumed = .ok consumed ∧
      consumed.toNat = put.length)
    (total : summary.tally.total.toNat = put.countP matches?)
    (failed : summary.tally.failedWorkers = 0) (cancelled : summary.cancelled = false) :
    (texts.length < Count.limit → summary.Exact matches? texts failure) ∧
      (Count.limit ≤ texts.length → summary.Overrun matches? texts) := by
  have lines := Feed.yielded_ofLines texts failure
  have closing := Feed.closeOf_ofLines texts failure
  cases stopped with
  | exhausted close of =>
      rw [lines] at of consumed total
      rw [closing] at close
      have none : failure = none := by
        cases failure with
        | none => rfl
        | some message => cases close
      refine exact_of_reading of linesRead produced ?_ consumed total failed cancelled
      rw [sourceError, none]
      exact of.sound
  | @failed reading message close of =>
      rw [lines] at of consumed total
      rw [closing] at close
      have some : failure = some message := by
        cases failure with
        | none => cases close
        | some other =>
            cases close
            rfl
      refine exact_of_reading of linesRead produced ?_ consumed total failed cancelled
      rw [sourceError, some]
      rfl
  | gaveUp close =>
      rw [closing] at close
      cases failure <;> cases close
  | @overflowed read rest text split full =>
      rw [lines] at split
      have length : texts.length = read.length + (rest.length + 1) := by
        rw [split, List.length_append, List.length_cons]
      have first : texts.take (Count.limit - 1) = read := by
        rw [← full, Nat.add_sub_cancel, split, List.take_left]
      constructor
      · intro few
        omega
      · intro _
        exact {
          linesRead
          produced
          total := by rw [first, total]
          failed
          cancelled
          sourceError }
  | flagged flag | cancelled flag => exact absurd flag clear
  | closed end_ => exact end_.elim

/-- A scan that nobody disturbs comes to the same in whatever order its threads take their steps,
however many workers it has and however many lines may wait. -/
theorem undisturbed_scan_is_exact {capacity workers : Count} (positive : 0 < capacity.toNat)
    (some : 0 < workers.toNat) (matches? : String → Bool) (sink : Tally → Option Fault)
    (texts : List String) (failure : Option String) :
    (∀ (number : Nat) (last : State),
      (system (.ofTest (Test.ofPredicate matches?) sink)).Steps
        (State.start capacity.toNat workers.toNat (Feed.ofLines texts failure) 0) number last →
      number ≤ (State.start capacity.toNat workers.toNat (Feed.ofLines texts failure) 0).budget
        (.ofTest (Test.ofPredicate matches?) sink)) ∧
    ∀ (events : List Event) (last : State),
      (system (.ofTest (Test.ofPredicate matches?) sink)).Run
        (State.start capacity.toNat workers.toNat (Feed.ofLines texts failure) 0) events last →
      ((∃ (moving : Thread) (pick : Nat) (next : State) (seen : List Event),
          (system (.ofTest (Test.ofPredicate matches?) sink)).step moving pick last =
            Option.some (next, seen)) ∨
        ∃ summary, last.summary? = Option.some summary) ∧
      ∀ summary, last.summary? = Option.some summary →
        (texts.length < Count.limit → summary.Exact matches? texts failure) ∧
        (Count.limit ≤ texts.length → summary.Overrun matches? texts) := by
  have only := Surroundings.ofTest_shutsDown (Test.ofPredicate matches?) sink
  have still := Feed.shutdown_not_mem_ofLines texts failure
  refine ⟨fun number last steps => length_le_budget only positive steps, ?_⟩
  intro events last run
  constructor
  · rcases over_or_step_of_run only positive some run with atEnd | moves
    · exact Or.inr atEnd.coordinator
    · exact Or.inl moves
  · intro summary returned
    have sound := sound_of_run only positive run
    have answers : ∀ line, (Surroundings.ofTest (Test.ofPredicate matches?) sink).predicate.Answers
        line := fun line => ⟨matches? line, rfl⟩
    have alone : (Surroundings.ofTest (Test.ofPredicate matches?) sink).Within fun _ => False :=
      fun _ _ asked => List.not_mem_nil asked
    have undisturbed := undisturbed_of_run alone answers positive still run
    have clear : ¬ last.shared.queue.cancelled = true := by simp [undisturbed.clear]
    rcases tally_of_undisturbed sound undisturbed some answers returned with
      ⟨consumed, total, failed, cancelled⟩
    rcases stopped_of_summary sound returned with
      ⟨result, stopped, linesRead, produced, sourceError⟩
    exact exact_of_stopped clear stopped linesRead produced sourceError consumed total failed
      cancelled

/-- Three workers, room for one line, and a source that fails behind its third line. -/
theorem undisturbed_scan_is_exact_of_three_workers :
    let three : Count := ⟨3, by decide⟩
    let texts : List String := ["a", "", "b"]
    let around : Surroundings := .ofTest (Test.ofPredicate (· = "b")) fun _ => none
    let first : State :=
      .start (1 : Count).toNat three.toNat (Feed.ofLines texts (some "out of reach")) 0
    let last : State := ((system around).settle State.order 300 first).1
    0 < (1 : Count).toNat ∧ 0 < three.toNat ∧ texts.length < Count.limit ∧
      ∃ summary, last.summary? = some summary ∧
        summary.Exact (· = "b") texts (some "out of reach") := by
  intro three texts around first last
  have returned : last.summary?.isSome = true := by decide +kernel
  rcases Option.isSome_iff_exists.mp returned with ⟨summary, there⟩
  have exact_of := ((undisturbed_scan_is_exact (by decide) (by decide) (· = "b") (fun _ => none)
    texts (some "out of reach")).2 _ last (System.run_settle _ _ 300 first)).2 summary there
  exact ⟨by decide, by decide, by decide, summary, there, exact_of.1 (by decide)⟩

end Scan

end LineTally
