import LineTally.Proofs.Queue.Closing
import LineTally.Proofs.Scan.Counting

/-!
# Why workers leave their loop

A worker leaves its loop because the queue is cancelled, because it is drained, or because the
worker itself failed, and what excuses it does so for ever: in particular a drained queue stays
drained.  When all workers have stopped, each slot holds the tally of a worker that was excused.
-/

namespace LineTally

open Queue

theorem Queue.Drained.toList_eq_nil {ι α : Type} {queue : Queue ι α} (drained : queue.Drained)
    (valid : queue.ring.Valid) : queue.ring.toList = [] := by
  apply List.eq_nil_of_length_eq_zero
  rw [← valid.count_eq]
  exact drained.2

/-- The worker that came to this tally was free to leave its loop. -/
def WorkerTally.Excused {ι : Type} (queue : Queue ι String) (tally : WorkerTally) : Prop :=
  queue.cancelled = true ∨ queue.Drained ∨ tally.failed = true

/-- The consumer has left its loop only if it is excused. -/
def Consumer.Excused {ι : Type} (queue : Queue ι String) : Consumer → Prop
  | .finished tally => tally.Excused queue
  | _ => True

theorem Consumer.excused_of_step {ι : Type} [DecidableEq ι] {predicate : Predicate}
    {index : Count} {queue : Queue ι String} {me : ι} {pick : Nat} {consumer : Consumer}
    {step : Step ι} (stepped : consumer.step predicate index queue me pick = some step)
    (ground : consumer.call.Grounded queue) : step.consumer.Excused step.queue := by
  cases consumer with
  | popping counts pop =>
      rcases Option.map_eq_some_iff.mp stepped with ⟨move, moved, rfl⟩
      cases progress : move.progress with
      | «at» pop => trivial
      | returned result =>
          rcases Pop.eq_of_returned moved progress with ⟨rfl, same⟩
          cases result with
          | error fault => exact ground.elim
          | ok found =>
              cases found with
              | some line => trivial
              | none =>
                  change WorkerTally.Excused move.queue _
                  rw [same]
                  exact ground.imp id Or.inl
  | testing counts line actions =>
      cases actions with
      | cons action actions =>
          cases stepped
          trivial
      | nil =>
          cases stepped
          unfold judge
          split
          · exact Or.inr (Or.inr rfl)
          · split
            · exact Or.inr (Or.inr rfl)
            · trivial
  | acting counts line actions inside =>
      rcases Option.map_eq_some_iff.mp stepped with ⟨acted, moved, rfl⟩
      cases progress : acted.progress <;> trivial
  | finished tally => cases stepped

namespace Scan

/-- The worker has left its loop only if it is excused; its tally is in its hands, or in its slot. -/
def Worker.Excused (queue : Queue Thread String) (slot : Option WorkerTally) : Worker → Prop
  | .consuming consumer => consumer.Excused queue
  | .recording tally => tally.Excused queue
  | _ => ∃ tally, slot = some tally ∧ tally.Excused queue

theorem Worker.excused_iff_of_hasRecorded {queue : Queue Thread String}
    {slot : Option WorkerTally} {worker : Worker} (recorded : worker.hasRecorded = true) :
    worker.Excused queue slot ↔ ∃ tally, slot = some tally ∧ tally.Excused queue := by
  cases worker <;> first | exact Iff.rfl | cases recorded

/-- What excuses a worker does so for ever. -/
theorem Worker.Excused.mono {queue next : Queue Thread String} {slot : Option WorkerTally}
    {worker : Worker} (excused : worker.Excused queue slot)
    (lasting : ∀ tally : WorkerTally, tally.Excused queue → tally.Excused next) :
    worker.Excused next slot := by
  cases worker with
  | consuming consumer =>
      cases consumer with
      | finished tally => exact lasting tally excused
      | popping | testing | acting => trivial
  | recording tally => exact lasting tally excused
  | _ =>
      rcases excused with ⟨tally, filled, because⟩
      exact ⟨tally, filled, lasting tally because⟩

theorem Worker.Turn.excused {around : Surroundings} {shared next : Shared} {number : Count}
    {worker after : Worker} {events : List Event}
    (turn : Worker.Turn around shared number worker next after events)
    (excused : worker.Excused shared.queue (shared.slots.get? number.toNat))
    (ground : worker.call.Grounded shared.queue)
    (lasting : ∀ tally : WorkerTally, tally.Excused shared.queue → tally.Excused next.queue)
    (recorded : ∀ tally, worker = .recording tally →
      (shared.slots.record tally).1.get? number.toNat = some tally) :
    after.Excused next.queue (next.slots.get? number.toNat) := by
  have arrives {slot : Option WorkerTally}
      (excused : ∃ tally, slot = some tally ∧ tally.Excused shared.queue) :=
    afterRendezvous_of (·.Excused shared.queue slot) excused excused number.toNat
  cases turn with
  | consumes stepped => exact Consumer.excused_of_step stepped ground
  | records => exact ⟨_, recorded _ rfl, excused⟩
  | cancels | cancelled =>
      rcases excused with ⟨tally, filled, because⟩
      exact ⟨tally, filled, lasting tally because⟩
  | meets | resumes => exact arrives excused _
  | _ => exact excused

/-- No worker touches the slot of another. -/
theorem State.Manned.get?_of_turn {around : Surroundings} {state : State} {shared : Shared}
    {number : Count} {worker after : Worker} {taken : List (Nat × String)} {events : List Event}
    (manned : state.Manned around taken) (there : state.workers[number.toNat]? = some worker)
    (turn : Worker.Turn around state.shared number worker shared after events) {index : Nat}
    (different : index ≠ number.toNat) :
    shared.slots.get? index = state.shared.slots.get? index := by
  rcases turn.cases_slots with ⟨-, -, -, -, -, -, slots, -⟩ | ⟨-, -, -, slots, -⟩ |
    ⟨tally, rfl, -, slots, -⟩ | ⟨-, -, slots, -⟩
  · rw [slots]
  · rw [slots]
  · rw [slots, (manned.record there).2.2 index different]
  · rw [slots]

/-- What is drained stays so. -/
theorem Moved.drained {around : Surroundings} {state next : State} {thread : Thread}
    {events : List Event} (moved : Moved around state thread next events)
    (drained : state.shared.queue.Drained) : next.shared.queue.Drained := by
  rcases moved.moves with ⟨transfer, moves, -, -⟩
  exact drained.advances moves.advances

/-- When the queue is drained, every line that was put has been taken. -/
theorem State.Sound.takes_eq_puts_of_drained {around : Surroundings} {source : List Entry}
    {workers : Nat} {last : State} {events : List Event}
    (sound : last.Sound around source workers events)
    (drained : last.shared.queue.Drained) : (takes events).map Prod.snd = puts events := by
  rw [sound.queued.items, drained.toList_eq_nil sound.queued.consistent.ring, List.append_nil]

/-- All workers that have left their loop were excused. -/
def State.Excused (state : State) : Prop :=
  ∀ (index : Nat) (worker : Worker), state.workers[index]? = some worker →
    worker.Excused state.shared.queue (state.shared.slots.get? index)

namespace State.Excused

variable {around : Surroundings} {source : List Entry} {workers : Nat} {state next : State}
variable {thread : Thread} {before events : List Event}

theorem start (capacity workers : Nat) (source : List Feed) (requests : Nat) :
    (State.start capacity workers source requests).Excused := by
  intro index worker there
  rw [List.eq_of_mem_replicate (List.mem_of_getElem? there)]
  trivial

theorem step (excused : state.Excused) (sound : state.Sound around source workers before)
    (moved : Moved around state thread next events) : next.Excused := by
  have lasting (tally : WorkerTally) (because : tally.Excused state.shared.queue) :
      tally.Excused next.shared.queue := by
    rcases moved.moves with ⟨transfer, moves, -, -⟩
    rcases because with flag | drained | failed
    · exact Or.inl (moves.advances.cancelled_mono flag)
    · exact Or.inr (Or.inl (drained.advances moves.advances))
    · exact Or.inr (Or.inr failed)
  cases moved with
  | reader | requester | coordinator =>
      intro index worker there
      exact (excused index worker there).mono lasting
  | @worker _ worker step number there stepped =>
      have turn := Worker.turn stepped
      apply forall_of_set
      · have ground := (sound.queued.consistent.fits (.worker number.toNat)).ground
        rw [calls_worker there] at ground
        refine turn.excused (excused _ _ there) ground lasting ?_
        rintro tally rfl
        exact (sound.manned.record there).2.1
      · intro index other different found
        have others := sound.manned.get?_of_turn there turn different
        have kept := (excused index other found).mono lasting
        rwa [← others] at kept

/-- Who has recorded its tally was excused, and the tally is in its slot. -/
theorem filled (excused : state.Excused) {index : Nat} {worker : Worker}
    (there : state.workers[index]? = some worker) (recorded : worker.hasRecorded = true) :
    ∃ tally, state.shared.slots.get? index = some tally ∧
      tally.Excused state.shared.queue :=
  (Worker.excused_iff_of_hasRecorded recorded).mp (excused index worker there)

end State.Excused

theorem excused_of_run {around : Surroundings} (only : around.ShutsDown)
    {capacity workers : Count} (positive : 0 < capacity.toNat) {source : List Feed}
    {requests : Nat} {events : List Event} {last : State}
    (run : (system around).Run (State.start capacity.toNat workers.toNat source requests)
      events last) : last.Excused := by
  induction run with
  | refl => exact .start _ _ _ _
  | tail thread pick before stepped ih =>
      exact ih.step (sound_of_run only positive before) (moved_of_step stepped)

end Scan

end LineTally
