import LineTally.Proofs.Scan.Leftovers
import LineTally.Proofs.Scan.Progress

/-!
# Scans that nobody asks to stop

If nobody asks for shutdown, a queue is cancelled only by the last worker to stop, and only if it
finds the stream still open.  Then no worker has seen the queue drained, and nobody has cancelled it
before, so all workers have failed: one worker that lives is enough for the scan to go on.
-/

namespace LineTally

/-- All of so many workers have recorded that they failed. -/
def Slots.AllFailed (workers : Nat) (slots : Slots) : Prop :=
  ∀ index < workers, ∃ tally, slots.get? index = some tally ∧ tally.failed = true

namespace Scan

open Queue

/-! ## The last worker to stop -/

/-- A worker comes to look whether it leaves an open stream only as the last of the living. -/
theorem Worker.Turn.probes_before {around : Surroundings} {shared next : Shared} {number : Count}
    {worker after : Worker} {events : List Event}
    (turn : Worker.Turn around shared number worker next after events) (probes : after.Probes) :
    worker.Probes ∨ worker = .leaving ∧ shared.live = 1 := by
  have arrives := afterRendezvous_of (¬ ·.Probes) id id number.toNat
  cases turn with
  | leavesLast last => exact Or.inr ⟨rfl, last⟩
  | findsOpen | abandons | cancels => exact Or.inl trivial
  | meets | resumes => exact absurd probes (arrives _)
  | _ => exact probes.elim

/-- All workers have left the ranks of the living. -/
def State.Deserted (state : State) : Prop :=
  ∀ worker ∈ state.workers, worker.hasLeft = true

/-- Who has left does not come back. -/
theorem State.Deserted.turn {around : Surroundings} {state : State} {shared : Shared}
    {number : Count} {worker after : Worker} {events : List Event} (deserted : state.Deserted)
    (there : state.workers[number.toNat]? = some worker)
    (turn : Worker.Turn around state.shared number worker shared after events) :
    ({ state with shared, workers := state.workers.set number.toNat after } : State).Deserted := by
  have gone : after.hasLeft = true := by
    rcases turn.live with ⟨-, same⟩ | ⟨-, left, -⟩
    · rw [same]
      exact deserted worker (List.mem_of_getElem? there)
    · exact left
  intro other member
  rcases List.mem_or_eq_of_mem_set member with before | rfl
  · exact deserted other before
  · exact gone

/-- When the last of the living leaves, all have left. -/
theorem State.Ranked.deserted {around : Surroundings} {state : State} {shared : Shared}
    {number : Count} {after : Worker} {events : List Event} (ranked : state.Ranked)
    (there : state.workers[number.toNat]? = some .leaving)
    (turn : Worker.Turn around state.shared number .leaving shared after events)
    (last : state.shared.live = 1) :
    ({ state with shared, workers := state.workers.set number.toNat after } : State).Deserted := by
  have gone : after.hasLeft = true := by
    rcases turn.live with ⟨same, -⟩ | ⟨-, left, -⟩
    · cases turn <;> rfl
    · exact left
  have counted := countP_set_add there after (!·.hasLeft)
  have here : Worker.leaving.hasLeft = false := rfl
  rw [← ranked.live, last] at counted
  simp only [here, gone, Bool.not_true, Bool.not_false, if_true, Bool.false_eq_true,
    if_false] at counted
  have none : (state.workers.set number.toNat after).countP (!·.hasLeft) = 0 := by omega
  intro other member
  simpa using List.countP_eq_zero.mp none other member

/-- Whoever looks whether it leaves an open stream, or cancels it, is the last to leave. -/
def State.Trailing (state : State) : Prop :=
  ∀ (index : Nat) (worker : Worker), state.workers[index]? = some worker → worker.Probes →
    state.Deserted

theorem State.Trailing.start (capacity workers : Nat) (source : List Feed) (requests : Nat) :
    (State.start capacity workers source requests).Trailing := by
  intro index worker there probes
  rw [List.eq_of_mem_replicate (List.mem_of_getElem? there)] at probes
  exact probes.elim

theorem State.Trailing.step {around : Surroundings} {state next : State} {thread : Thread}
    {events : List Event} (trailing : state.Trailing) (ranked : state.Ranked)
    (moved : Moved around state thread next events) : next.Trailing := by
  cases moved with
  | reader | requester | coordinator => exact trailing
  | @worker _ worker step number there stepped =>
      have turn := Worker.turn stepped
      apply forall_of_set
      · intro probes
        rcases turn.probes_before probes with before | ⟨rfl, last⟩
        · exact (trailing _ _ there before).turn there turn
        · exact ranked.deserted there turn last
      · intro index other _ found probes
        exact (trailing index other found probes).turn there turn

/-! ## Who cancels the queue -/

/-- Nobody asks for shutdown, and the queue is not cancelled, nor going to be, unless all workers
have failed. -/
structure State.Unprompted (state : State) : Prop where
  alone : state.Within fun _ => False
  flag : state.shared.queue.cancelled = true →
    state.shared.slots.AllFailed state.workers.length
  abandons : ∀ (index : Nat) (worker : Worker), state.workers[index]? = some worker →
    worker.Abandons → state.shared.slots.AllFailed state.workers.length

/-- When all have failed, all have recorded it, and the slots stay as they are. -/
theorem State.Manned.slots_eq_of_allFailed {around : Surroundings} {state : State}
    {shared : Shared} {number : Count} {worker after : Worker} {taken : List (Nat × String)}
    {events : List Event} (manned : state.Manned around taken)
    (failed : state.shared.slots.AllFailed state.workers.length)
    (there : state.workers[number.toNat]? = some worker)
    (turn : Worker.Turn around state.shared number worker shared after events) :
    shared.slots = state.shared.slots := by
  rcases turn.cases_slots with ⟨-, -, -, -, -, -, same, -⟩ | ⟨-, -, -, same, -⟩ |
    ⟨tally, rfl, -⟩ | ⟨-, -, same, -⟩
  · exact same
  · exact same
  · rcases manned.each _ _ there with ⟨-, -, empty, -⟩
    rcases failed number.toNat (List.getElem?_eq_some_iff.mp there).1 with ⟨other, filled, -⟩
    rw [empty] at filled
    cases filled
  · exact same

/-- If all workers have left a stream that has not ended, and nobody has cancelled it, then all have
failed. -/
theorem State.Excused.allFailed {state : State} (excused : state.Excused)
    (deserted : state.Deserted) (unended : state.shared.queue.ended = false)
    (clear : state.shared.queue.cancelled = false) :
    state.shared.slots.AllFailed state.workers.length := by
  intro index inside
  have there := List.getElem?_eq_getElem inside
  have left := deserted _ (List.mem_of_getElem? there)
  have recorded : state.workers[index].hasRecorded = true := by
    generalize state.workers[index] = worker at left
    cases worker <;> first | rfl | cases left
  rcases excused.filled there recorded with ⟨tally, filled, flag | drained | failed⟩
  · rw [clear] at flag
    cases flag
  · rw [drained.1] at unended
    cases unended
  · exact ⟨tally, filled, failed⟩

namespace State.Unprompted

variable {around : Surroundings} {source : List Entry} {workers : Nat} {state next : State}
variable {thread : Thread} {before events : List Event}

theorem start (capacity workers : Nat) {source : List Feed} (still : .shutdown ∉ source) :
    (State.start capacity workers source 0).Unprompted where
  alone := .start capacity workers fun asked => asked.elim still (absurd rfl)
  flag := nofun
  abandons index worker there abandons := by
    rw [List.eq_of_mem_replicate (List.mem_of_getElem? there)] at abandons
    exact abandons.elim

/-- A worker that comes to cancel the queue leaves all workers failed behind it. -/
theorem abandons_turn {shared : Shared} {number : Count} {worker after : Worker}
    (unprompted : state.Unprompted) (excused : state.Excused) (trailing : state.Trailing)
    (there : state.workers[number.toNat]? = some worker)
    (turn : Worker.Turn around state.shared number worker shared after events)
    (abandons : after.Abandons) :
    state.shared.slots.AllFailed state.workers.length := by
  have arrives := Worker.afterRendezvous_of (¬ ·.Abandons) id id number.toNat
  cases turn with
  | findsOpen unended =>
      cases flag : state.shared.queue.cancelled with
      | true => exact unprompted.flag flag
      | false => exact excused.allFailed (trailing _ _ there trivial) unended flag
  | abandons | cancels => exact unprompted.abandons _ _ there trivial
  | meets | resumes => exact absurd abandons (arrives _)
  | _ => exact abandons.elim

/-- The queue is cancelled only by a worker behind which all have failed. -/
theorem allFailed_of_cancelled (unprompted : state.Unprompted)
    (sound : state.Sound around source workers before)
    (moved : Moved around state thread next events)
    (flag : next.shared.queue.cancelled = true) :
    state.shared.slots.AllFailed state.workers.length := by
  rcases moved.moves with ⟨transfer, moves, -, -⟩
  by_cases cancels : ∃ place, state.calls thread = .cancel place
  · rcases cancels with ⟨place, cancels⟩
    rcases unprompted.alone.cancelling cancels with ⟨index, -, there⟩
    exact unprompted.abandons index _ there trivial
  · have kept := moves.advances.cancelled_eq (fun place same => cancels ⟨place, same⟩)
      (sound.queued.tame.calls thread).1
    exact unprompted.flag (kept.symm.trans flag)

theorem step (only : around.Within fun _ => False) (unprompted : state.Unprompted)
    (sound : state.Sound around source workers before) (excused : state.Excused)
    (trailing : state.Trailing) (moved : Moved around state thread next events) :
    next.Unprompted := by
  have cancelled := unprompted.allFailed_of_cancelled sound moved
  refine ⟨unprompted.alone.step only moved, ?_, ?_⟩
  · cases moved with
    | reader | requester | coordinator => exact cancelled
    | worker number there stepped =>
        intro flag
        have failed := cancelled flag
        dsimp only
        rw [sound.manned.slots_eq_of_allFailed failed there (Worker.turn stepped),
          List.length_set]
        exact failed
  · cases moved with
    | reader | requester | coordinator => exact unprompted.abandons
    | @worker _ worker step number there stepped =>
        have turn := Worker.turn stepped
        have still (failed : state.shared.slots.AllFailed state.workers.length) :
            step.shared.slots.AllFailed (state.workers.set number.toNat step.worker).length := by
          rw [sound.manned.slots_eq_of_allFailed failed there turn, List.length_set]
          exact failed
        apply forall_of_set
        · intro abandons
          exact still (unprompted.abandons_turn excused trailing there turn abandons)
        · intro index other _ found abandons
          exact still (unprompted.abandons index other found abandons)

end State.Unprompted

/-- Along every run that nobody asks to stop, the queue is cancelled only when all have failed. -/
theorem unprompted_of_run {around : Surroundings} (only : around.Within fun _ => False)
    {capacity workers : Count} (positive : 0 < capacity.toNat) {source : List Feed}
    (still : .shutdown ∉ source) {events : List Event} {last : State}
    (run : (system around).Run (State.start capacity.toNat workers.toNat source 0) events last) :
    last.Unprompted := by
  have shuts : around.ShutsDown := fun line action member => (only line action member).elim
  have both : last.Trailing ∧ last.Unprompted := by
    induction run with
    | refl => exact ⟨.start _ _ _ _, .start _ _ still⟩
    | tail thread pick before stepped ih =>
        have sound := sound_of_run shuts positive before
        have moved := moved_of_step stepped
        exact ⟨ih.1.step sound.ranked moved,
          ih.2.step only sound (excused_of_run shuts positive before) ih.1 moved⟩
  exact both.2

end Scan

end LineTally
