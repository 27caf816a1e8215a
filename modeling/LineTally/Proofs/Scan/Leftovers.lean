import LineTally.Proofs.Scan.Leaving

/-!
# What is left in the queue of a scan that was not cut short

The summary of a scan says whether the scan was cut short.  If it was not, every worker that did not
fail saw the queue drained, so one such worker is enough for all lines to have been taken.  Only if
all workers failed may lines be left, and only those that wait when the stream has already ended:
the last worker to stop that finds the stream open has the scan cut short.
-/

namespace LineTally.Scan

open Queue

section Returned

variable {around : Surroundings} {source : List Entry} {workers : Nat} {events : List Event}
variable {last : State} {summary : Summary}

/-- The stream has ended when there is a summary. -/
theorem ended_of_summary (sound : last.Sound around source workers events)
    (returned : last.summary? = some summary) : last.shared.queue.ended = true := by
  rcases (knows_of_summary sound returned).1 with ⟨result, finished, -⟩
  rw [sound.queued.tame.ended, finished]
  trivial

end Returned

/-- A step that comes to a summary is that of the coordinator, which reads the flag. -/
theorem Moved.summary {around : Surroundings} {state next : State} {thread : Thread}
    {events : List Event} (moved : Moved around state thread next events) {summary : Summary}
    (returned : next.summary? = some summary) :
    state.summary? = some summary ∨
      ∃ reading, state.coordinator = .closing reading summary.tally ∧
        summary.cancelled = state.shared.queue.cancelled ∧ next.shared = state.shared := by
  cases moved with
  | reader | worker | requester => exact Or.inl returned
  | coordinator stepped =>
      have turn := Coordinator.turn stepped
      have there := coordinator_of_summary returned
      dsimp only at there
      subst there
      generalize same : state.coordinator = before at turn
      cases turn with
      | closes => exact Or.inr ⟨_, rfl, rfl, rfl⟩

/-! ## Lines that nobody takes -/

/-- If the scan was not cut short, the queue is drained unless all workers failed. -/
def State.Concluded (state : State) : Prop :=
  ∀ summary, state.summary? = some summary → summary.cancelled = false →
    state.shared.queue.Drained ∨ ∀ tally ∈ summary.tally.workers, tally.failed = true

/-- Of workers that are over and were not stopped by the flag, one that did not fail has seen the
queue drained. -/
theorem State.Excused.drained_or_failed {around : Surroundings} {source : List Entry}
    {workers : Nat} {events : List Event} {state : State} {tally : Tally}
    (excused : state.Excused) (sound : state.Sound around source workers events)
    (atEnd : ∀ worker ∈ state.workers, worker.isOver = true)
    (summed : state.shared.slots.aggregate = .ok tally)
    (clear : state.shared.queue.cancelled = false) :
    state.shared.queue.Drained ∨ ∀ entry ∈ tally.workers, entry.failed = true := by
  have complete := sound.gathered.complete_of_over atEnd
  rcases sound.sums_of_over atEnd summed with ⟨sums, slots⟩
  by_cases drained : state.shared.queue.Drained
  · exact Or.inl drained
  · right
    intro entry member
    rcases List.getElem?_of_mem member with ⟨index, there⟩
    have inside : index < state.workers.length := by
      rw [sound.number, ← sums.length]
      exact (List.getElem?_eq_some_iff.mp there).1
    have arrived := sound.gathered.hasArrived complete (List.getElem_mem inside)
    have recorded := Worker.hasRecorded_of_hasArrived arrived
    rcases excused.filled (List.getElem?_eq_getElem inside) recorded with ⟨own, filled, because⟩
    rw [slots index entry there] at filled
    cases filled
    rcases because with flag | emptied | failed
    · rw [clear] at flag
      cases flag
    · exact absurd emptied drained
    · exact failed

theorem State.Concluded.step {around : Surroundings} {source : List Entry} {workers : Nat}
    {before events : List Event} {state next : State} {thread : Thread}
    (concluded : state.Concluded) (excused : state.Excused)
    (sound : state.Sound around source workers before)
    (moved : Moved around state thread next events) : next.Concluded := by
  intro summary returned whole
  have earlier : state.shared.queue.Drained ∨
      ∀ tally ∈ summary.tally.workers, tally.failed = true := by
    rcases moved.summary returned with already | ⟨reading, closing, cut, -⟩
    · exact concluded summary already whole
    · have knows := sound.summed.coordinator
      rw [closing] at knows
      exact excused.drained_or_failed sound knows.2.1 knows.2.2 (cut.symm.trans whole)
  exact earlier.imp_left moved.drained

theorem concluded_of_run {around : Surroundings} (only : around.ShutsDown)
    {capacity workers : Count} (positive : 0 < capacity.toNat) {source : List Feed}
    {requests : Nat} {events : List Event} {last : State}
    (run : (system around).Run (State.start capacity.toNat workers.toNat source requests)
      events last) : last.Concluded := by
  induction run with
  | refl => exact nofun
  | tail thread pick before stepped ih =>
      exact ih.step (excused_of_run only positive before) (sound_of_run only positive before)
        (moved_of_step stepped)

/-! ## The last worker that finds the stream open -/

/-- The worker was the last to stop, found the stream open, and sees to it that the queue is
cancelled. -/
def Worker.Abandons : Worker → Prop
  | .checking | .cancelling _ => True
  | _ => False

theorem Worker.Abandons.isOver_eq_false {worker : Worker} (abandons : worker.Abandons) :
    worker.isOver = false := by
  cases worker with
  | ended | died => exact abandons.elim
  | _ => rfl

/-- A worker goes on to see to it until the queue is cancelled. -/
theorem Worker.Turn.abandons_still {around : Surroundings} {shared next : Shared} {number : Count}
    {worker after : Worker} {events : List Event}
    (turn : Worker.Turn around shared number worker next after events)
    (ground : worker.call.Grounded shared.queue) (abandons : worker.Abandons) :
    after.Abandons ∨ shared.queue.cancelled = true := by
  cases turn with
  | findsFlag set => exact Or.inr set
  | abandons | cancels => exact Or.inl trivial
  | cancelled stepped progress =>
      rw [Cancel.eq_of_returned stepped progress] at ground
      exact Or.inr ground
  | _ => exact abandons.elim

/-- The queue is cancelled, or will be before the scan is over, and the summary says so. -/
structure State.Abandoned (state : State) : Prop where
  flag : state.shared.queue.cancelled = true ∨
    ∃ (index : Nat) (worker : Worker), state.workers[index]? = some worker ∧ worker.Abandons
  cut : ∀ summary, state.summary? = some summary → summary.cancelled = true

namespace State.Abandoned

variable {around : Surroundings} {source : List Entry} {workers : Nat} {state next : State}
variable {thread : Thread} {before events : List Event}

theorem of_abandons (sound : state.Sound around source workers before) {index : Nat}
    {worker : Worker} (there : state.workers[index]? = some worker)
    (abandons : worker.Abandons) : state.Abandoned where
  flag := Or.inr ⟨index, worker, there, abandons⟩
  cut _ returned := absurd (knows_of_summary sound returned).2.1
    (not_all_over (List.mem_of_getElem? there) abandons.isOver_eq_false)

theorem flag_step (abandoned : state.Abandoned)
    (sound : state.Sound around source workers before)
    (moved : Moved around state thread next events) :
    next.shared.queue.cancelled = true ∨
      ∃ (index : Nat) (worker : Worker), next.workers[index]? = some worker ∧
        worker.Abandons := by
  rcases moved.moves with ⟨transfer, moves, -, -⟩
  have lasting := moves.advances.cancelled_mono
  rcases abandoned.flag with flag | ⟨index, worker, there, abandons⟩
  · exact Or.inl (lasting flag)
  · cases moved with
    | reader | requester | coordinator => exact Or.inr ⟨index, worker, there, abandons⟩
    | @worker _ mover step number found stepped =>
        rcases eq_or_getElem?_set found step.worker there with ⟨rfl, rfl⟩ | kept
        · have ground := (sound.queued.consistent.fits (.worker number.toNat)).ground
          rw [calls_worker there] at ground
          have inside := (List.getElem?_eq_some_iff.mp there).1
          rcases (Worker.turn stepped).abandons_still ground abandons with still | flag
          · exact Or.inr ⟨_, _, List.getElem?_set_self inside, still⟩
          · exact Or.inl (lasting flag)
        · exact Or.inr ⟨index, worker, kept, abandons⟩

theorem step (abandoned : state.Abandoned) (sound : state.Sound around source workers before)
    (moved : Moved around state thread next events) : next.Abandoned := by
  refine ⟨abandoned.flag_step sound moved, ?_⟩
  intro summary returned
  rcases moved.summary returned with already | ⟨reading, closing, cut, -⟩
  · exact abandoned.cut summary already
  · rw [cut]
    rcases abandoned.flag with flag | ⟨index, worker, there, abandons⟩
    · exact flag
    · have knows := sound.summed.coordinator
      rw [closing] at knows
      exact absurd knows.2.1
        (not_all_over (List.mem_of_getElem? there) abandons.isOver_eq_false)

end State.Abandoned

/-- From the last worker's finding on that the stream is open, the queue will be cancelled. -/
theorem abandoned_of_run {around : Surroundings} (only : around.ShutsDown)
    {capacity workers : Count} (positive : 0 < capacity.toNat) {source : List Feed}
    {requests : Nat} {before events : List Event} {middle last : State}
    (early : (system around).Run (State.start capacity.toNat workers.toNat source requests)
      before middle)
    (late : (system around).Run middle events last) (abandoned : middle.Abandoned) :
    last.Abandoned := by
  refine late.keeps_state abandoned ?_
  intro seen state thread pick next more run abandoned stepped
  exact abandoned.step (sound_of_run only positive (early.trans run)) (moved_of_step stepped)

/-! ## What comes of it -/

/-- A scan that was not cut short leaves lines in its queue only if all its workers failed, and only
if the last of them to stop did not find the stream open. -/
theorem leftovers_only_of_failed_workers {capacity workers : Count}
    (positive : 0 < capacity.toNat) (test : Test) (sink : Tally → Option Fault)
    (source : List Feed) (requests : Nat) {events : List Event} {last : State}
    {summary : Summary}
    (run : (system (.ofTest test sink)).Run
      (State.start capacity.toNat workers.toNat source requests) events last)
    (returned : last.summary? = some summary) (whole : summary.cancelled = false) :
    last.shared.queue.ended = true ∧
      puts events = (takes events).map Prod.snd ++ last.shared.queue.ring.toList ∧
      (summary.tally.failedWorkers < workers.toNat →
        last.shared.queue.ring.toList = [] ∧ (takes events).map Prod.snd = puts events) ∧
      ∀ (before after : List Event) (middle : State) (index : Nat),
        (system (.ofTest test sink)).Run
          (State.start capacity.toNat workers.toNat source requests) before middle →
        (system (.ofTest test sink)).Run middle after last →
        middle.workers[index]? ≠ some .checking := by
  have only := Surroundings.ofTest_shutsDown test sink
  have sound := sound_of_run only positive run
  refine ⟨ended_of_summary sound returned, sound.queued.items, ?_, ?_⟩
  · intro fewer
    rcases concluded_of_run only positive run summary returned whole with drained | failed
    · exact ⟨drained.toList_eq_nil sound.queued.consistent.ring,
        sound.takes_eq_puts_of_drained drained⟩
    · have all := (sums_of_summary sound returned).failedWorkers_eq_iff.mpr failed
      exact absurd all (Nat.ne_of_lt fewer)
  · intro before after middle index early late there
    have abandoned := State.Abandoned.of_abandons (sound_of_run only positive early) there trivial
    have cut := (abandoned_of_run only positive early late abandoned).cut summary returned
    rw [whole] at cut
    cases cut

/-- One of two workers gives up on the second line, and shutdown is not asked for: the other worker
takes all that follows. -/
theorem leftovers_only_of_failed_workers_of_two :
    let two : Count := ⟨2, by decide⟩
    let test : Test := fun line => { answer := if line = "b" then .error "no luck" else .ok true }
    let around : Surroundings := .ofTest test fun _ => none
    let first : State := .start two.toNat two.toNat [.line "a", .line "b", .line "c", .line "d"] 0
    let run := (system around).settle State.order 300 first
    ∃ summary, 0 < two.toNat ∧ run.1.summary? = some summary ∧ summary.cancelled = false ∧
      summary.tally.failedWorkers = 1 ∧ run.1.shared.queue.ring.toList = [] ∧
      (takes run.2).map Prod.snd = puts run.2 := by
  intro two test around first run
  have returned : run.1.summary?.isSome = true := by decide +kernel
  rcases Option.isSome_iff_exists.mp returned with ⟨summary, there⟩
  have said : (run.1.summary?.map fun summary =>
      (summary.cancelled, summary.tally.failedWorkers)) = some (false, 1) := by decide +kernel
  rw [there, Option.map_some, Option.some.injEq, Prod.mk.injEq] at said
  have fewer : summary.tally.failedWorkers < two.toNat := by
    rw [said.2]
    decide
  have reached := System.run_settle (system around) State.order 300 first
  have left := @leftovers_only_of_failed_workers two two (by decide) test (fun _ => none)
    [.line "a", .line "b", .line "c", .line "d"] 0 run.2 run.1 summary reached there said.1
  exact ⟨summary, by decide, there, said.1, said.2, left.2.2.1 fewer⟩

/-- The only worker gives up on its first line when the stream has already ended: the line behind it
is left in the queue, and the summary does not say that the scan was cut short. -/
theorem line_left_by_failed_worker :
    let two : Count := ⟨2, by decide⟩
    let test : Test := fun line =>
      { answer := if line = "boom" then .error "no luck" else .ok true }
    let around : Surroundings := .ofTest test fun _ => none
    let first : State :=
      .start two.toNat (1 : Count).toNat [.line "boom", .line "left"] 0
    let run := (system around).settle State.readingOrder 100 first
    ∃ summary, (system around).Run first run.2 run.1 ∧ run.1.summary? = some summary ∧
      summary.cancelled = false ∧ puts run.2 = ["boom", "left"] ∧
      takes run.2 = [(0, "boom")] ∧ run.1.shared.queue.ring.toList = ["left"] := by
  intro two test around first run
  have whole : run.1.summary?.map (·.cancelled) = some false := by decide +kernel
  have put : puts run.2 = ["boom", "left"] := by decide +kernel
  have taken : takes run.2 = [(0, "boom")] := by decide +kernel
  have left : run.1.shared.queue.ring.toList = ["left"] := by decide +kernel
  rcases Option.map_eq_some_iff.mp whole with ⟨summary, there, whole⟩
  exact ⟨summary, System.run_settle _ _ 100 first, there, whole, put, taken, left⟩

end LineTally.Scan
