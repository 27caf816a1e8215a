import LineTally.Proofs.Scan.Outcome

/-!
# A scan does not get stuck

A state of a scan in which no thread has a step is one in which all threads have finished.  Nobody
holds the lock in it, so who waits sleeps.  If the reader slept, the queue would be full, so no
worker would sleep, and all of them would have left an open stream; but the last of them to leave
would have cancelled it.  So the reader has finished, the stream has ended, no worker sleeps, and
all of them meet.
-/

namespace LineTally

open Queue

namespace Scan

/-! ## Threads without a step -/

theorem Worker.waits {around : Surroundings} {shared : Shared} {number : Count} {pick : Nat}
    {worker : Worker} (stuck : worker.step around shared number pick = none) :
    worker.call.Waits shared.queue (.worker number.toNat) ∨
      worker = .probing ∧ shared.queue.holder ≠ none ∨
      worker = .waiting ∧ shared.rendezvous.resume? (.worker number.toNat) = none ∨
      worker.isOver = true := by
  cases worker with
  | consuming consumer =>
      cases consumer with
      | finished tally => cases stuck
      | popping | testing | acting =>
          rcases Consumer.waits (Option.map_eq_none_iff.mp stuck) with waits | ⟨tally, same⟩
          · exact Or.inl waits
          · cases same
  | probing =>
      simp only [Worker.step] at stuck
      split at stuck
      next held =>
        exact Or.inr (Or.inl ⟨rfl, by simpa [Option.isSome_iff_ne_none] using held⟩)
      next => cases stuck
  | checking =>
      simp only [Worker.step] at stuck
      split at stuck <;> cases stuck
  | cancelling call => exact Or.inl (Cancel.waits (Option.map_eq_none_iff.mp stuck))
  | arriving | aggregating | publishing =>
      simp only [Worker.step] at stuck
      split at stuck <;> cases stuck
  | waiting => exact Or.inr (Or.inr (Or.inl ⟨rfl, Option.map_eq_none_iff.mp stuck⟩))
  | recording | leaving | reporting => cases stuck
  | ended | died => exact Or.inr (Or.inr (Or.inr rfl))

/-! ## The last worker -/

/-- The worker looks whether it leaves an open stream, or cancels it. -/
def Worker.Probes : Worker → Prop
  | .probing | .checking | .cancelling _ => True
  | _ => False

/-- When all workers have left, the stream has ended or is cancelled, or the last of them is about
to find that out. -/
def State.Watched (state : State) : Prop :=
  state.workers ≠ [] → (∀ worker ∈ state.workers, worker.hasLeft = true) →
    state.shared.queue.ended = true ∨ state.shared.queue.cancelled = true ∨
      ∃ (index : Nat) (worker : Worker), state.workers[index]? = some worker ∧ worker.Probes

theorem State.Watched.start (capacity workers : Nat) (source : List Feed) (requests : Nat) :
    (State.start capacity workers source requests).Watched := by
  intro some left
  cases workers with
  | zero => exact absurd rfl some
  | succ number =>
      have living := left (.consuming .start) (by simp [State.start])
      cases living

/-- What a step of a worker has to do with the last worker's watch. -/
theorem Worker.Turn.probes {around : Surroundings} {shared next : Shared} {number : Count}
    {worker after : Worker} {events : List Event}
    (turn : Worker.Turn around shared number worker next after events)
    (fits : Fits shared.queue (.worker number.toNat) worker.call) :
    (worker.Probes → after.Probes ∨ shared.queue.ended = true ∨ shared.queue.cancelled = true) ∧
      (after.hasLeft = true → worker.hasLeft = false → shared.live = 1 → after.Probes) := by
  cases turn with
  | findsEnd ended => exact ⟨fun _ => Or.inr (Or.inl ended), fun _ living => by cases living⟩
  | findsFlag set => exact ⟨fun _ => Or.inr (Or.inr set), fun _ living => by cases living⟩
  | findsOpen | abandons | cancels =>
      exact ⟨fun _ => Or.inl trivial, fun _ living => by cases living⟩
  | @cancelled call first move stepped progress =>
      refine ⟨fun _ => Or.inr (Or.inr ?_), fun _ living => by cases living⟩
      have turn := (Cancel.turn stepped).1
      have ground := fits.ground
      rw [progress] at turn
      generalize move.queue = after at turn
      cases turn with
      | cancelLeaves => exact ground
  | leavesLast => exact ⟨fun probes => probes.elim, fun _ _ _ => trivial⟩
  | leaves more => exact ⟨fun probes => probes.elim, fun _ _ last => absurd last more⟩
  | finishes | consumes | records => exact ⟨fun probes => probes.elim, fun left => by cases left⟩
  | _ => exact ⟨fun probes => probes.elim, fun _ living => by cases living⟩

/-- A worker that is still there when all others have left is the last one alive. -/
theorem State.Ranked.live_eq_one {state : State} {index : Nat} {worker after : Worker}
    (ranked : state.Ranked) (there : state.workers[index]? = some worker)
    (here : worker.hasLeft = false)
    (left : ∀ other ∈ state.workers.set index after, other.hasLeft = true) :
    state.shared.live = 1 := by
  have inside := (List.getElem?_eq_some_iff.mp there).1
  have gone : after.hasLeft = true := left after (List.mem_set inside after)
  have none : (state.workers.set index after).countP (!·.hasLeft) = 0 := by
    apply List.countP_eq_zero.mpr
    intro other member
    simp [left other member]
  have counted := countP_set_add there after (!·.hasLeft)
  simp only [none, here, gone, Bool.not_true, Bool.not_false, if_true, Bool.false_eq_true,
    if_false] at counted
  rw [ranked.live]
  omega

/-- A step keeps the watch. -/
theorem State.Watched.step {around : Surroundings} {source : List Entry} {workers : Nat}
    {before events : List Event} {state next : State} {thread : Thread} (watched : state.Watched)
    (sound : state.Sound around source workers before)
    (moved : Moved around state thread next events) : next.Watched := by
  rcases moved.moves with ⟨transfer, moves, -, -⟩
  have ended := moves.advances.ended_mono
  have cancelled := moves.advances.cancelled_mono
  cases moved with
  | reader | requester | coordinator =>
      intro some left
      rcases watched some left with end_ | flag | probing
      · exact Or.inl (ended end_)
      · exact Or.inr (Or.inl (cancelled flag))
      · exact Or.inr (Or.inr probing)
  | @worker _ worker step number there stepped =>
      intro some left
      have turn := Worker.turn stepped
      have fits := sound.queued.consistent.fits (.worker number.toNat)
      rw [calls_worker there] at fits
      have inside := (List.getElem?_eq_some_iff.mp there).1
      have mine : (state.workers.set number.toNat step.worker)[number.toNat]? =
          Option.some step.worker := List.getElem?_set_self inside
      have others : ∀ (index : Nat) (other : Worker), index ≠ number.toNat →
          state.workers[index]? = Option.some other → other.hasLeft = true := by
        intro index other different found
        apply left other
        rw [← List.getElem?_set_ne (Ne.symm different)] at found
        exact List.mem_of_getElem? found
      cases mineLeft : worker.hasLeft with
      | true =>
          have all : ∀ other ∈ state.workers, other.hasLeft = true := by
            intro other member
            rcases List.getElem?_of_mem member with ⟨index, found⟩
            by_cases same : index = number.toNat
            · subst same
              rw [there] at found
              cases found
              exact mineLeft
            · exact others index other same found
          rcases watched (List.ne_nil_of_length_pos (by omega)) all with
            end_ | flag | ⟨index, other, found, probes⟩
          · exact Or.inl (ended end_)
          · exact Or.inr (Or.inl (cancelled flag))
          · rcases eq_or_getElem?_set there step.worker found with ⟨rfl, rfl⟩ | kept
            · rcases (turn.probes fits).1 probes with probes | end_ | flag
              · exact Or.inr (Or.inr ⟨_, _, mine, probes⟩)
              · exact Or.inl (ended end_)
              · exact Or.inr (Or.inl (cancelled flag))
            · exact Or.inr (Or.inr ⟨index, other, kept, probes⟩)
      | false =>
          have leaves := left step.worker (List.mem_of_getElem? mine)
          have last := sound.ranked.live_eq_one there mineLeft left
          exact Or.inr (Or.inr ⟨_, _, mine, (turn.probes fits).2 leaves mineLeft last⟩)

/-! ## The end -/

/-- All threads of a scan have finished: the workers are past the rendezvous, where only the sink
can have ended the first of them by a fault, and the coordinator has returned. -/
structure State.Over (around : Surroundings) (state : State) : Prop where
  reader : ∃ result, state.reader = .finished result
  workers : ∀ (index : Nat) (worker : Worker), state.workers[index]? = some worker →
    worker = .ended ∨ index = aggregator ∧
      ∃ tally fault, around.sink tally = some fault ∧ worker = .died fault
  rendezvous : state.shared.rendezvous.complete = true
  requesters : ∀ requester ∈ state.requesters, requester = .satisfied
  coordinator : ∃ summary, state.summary? = some summary

section Stuck

variable {around : Surroundings} {source : List Entry} {workers : Nat} {events : List Event}
variable {state : State}

theorem reader_waits (resting : (system around).step .reader 0 state = none) :
    state.reader.call.Waits state.shared.queue .reader ∨
      ∃ result, state.reader = .finished result :=
  Reader.waits (Option.map_eq_none_iff.mp resting)

theorem worker_waits (few : state.workers.length < Count.limit) {index : Nat} {worker : Worker}
    (there : state.workers[index]? = some worker)
    (resting : (system around).step (.worker index) 0 state = none) :
    worker.call.Waits state.shared.queue (.worker index) ∨
      worker = .probing ∧ state.shared.queue.holder ≠ none ∨
      worker = .waiting ∧ state.shared.rendezvous.resume? (.worker index) = none ∨
      worker.isOver = true := by
  have inside := (List.getElem?_eq_some_iff.mp there).1
  have fits : index < Count.limit := Nat.lt_trans inside few
  have number : Count.ofNat? index = some ⟨index, fits⟩ := Count.ofNat?_toNat ⟨index, fits⟩
  simp only [system, there, number, Option.bind_eq_bind, Option.bind_some,
    Option.bind_eq_none_iff] at resting
  apply @Worker.waits around state.shared ⟨index, fits⟩ 0 worker
  cases step : worker.step around state.shared ⟨index, fits⟩ 0 with
  | none => rfl
  | some step' => cases resting step' step

theorem requester_waits {index : Nat} {inside : Acting}
    (there : state.requesters[index]? = some (.asking inside))
    (resting : (system around).step (.requester index) 0 state = none) :
    (inside.call : Call String).Waits state.shared.queue (.requester index) := by
  simp only [system, there, Option.bind_eq_bind, Option.bind_some, Option.bind_eq_none_iff]
    at resting
  apply Acting.waits
  cases step : inside.step state.shared.queue (.requester index) with
  | none => rfl
  | some acted => cases resting acted step

/-- A thread without a step rests in its call. -/
theorem rests_of_resting (few : state.workers.length < Count.limit) {thread : Thread}
    (resting : (system around).step thread 0 state = none) :
    (state.calls thread).Rests state.shared.queue thread := by
  cases thread with
  | reader =>
      rcases reader_waits resting with waits | ⟨result, finished⟩
      · exact Or.inr waits
      · left
        rw [calls_reader, finished]
        exact .away
  | worker index =>
      cases there : state.workers[index]? with
      | none =>
          left
          simp only [State.calls, there]
          exact .away
      | some worker =>
          rw [calls_worker there]
          rcases worker_waits few there resting with waits | ⟨rfl, -⟩ | ⟨rfl, -⟩ | atEnd
          · exact Or.inr waits
          · exact Or.inl .away
          · exact Or.inl .away
          · cases worker <;> first | exact Or.inl .away | cases atEnd
  | requester index =>
      cases there : state.requesters[index]? with
      | none =>
          left
          simp only [State.calls, there]
          exact .away
      | some requester =>
          rw [calls_requester there]
          cases requester with
          | asking inside => exact Or.inr (requester_waits there resting)
          | satisfied => exact Or.inl .away
  | coordinator => exact Or.inl .away

/-- In a state without a step, every thread in a call waits there. -/
theorem rest_of_stuck (stuck : (system around).Stuck state)
    (few : state.workers.length < Count.limit) (thread : Thread) :
    (state.calls thread).Rests state.shared.queue thread :=
  rests_of_resting few (stuck thread 0)

theorem holder_eq_none_of_stuck (sound : state.Sound around source workers events)
    (stuck : (system around).Stuck state) : state.shared.queue.holder = none :=
  sound.queued.consistent.holder_eq_none (rest_of_stuck stuck sound.ranked.few)

/-- A worker without a step sleeps in a pop, or waits at the rendezvous, or is over. -/
theorem worker_rests (tame : state.Tame) (few : state.workers.length < Count.limit)
    (free : state.shared.queue.holder = none) {index : Nat} {worker : Worker}
    (there : state.workers[index]? = some worker)
    (resting : (system around).step (.worker index) 0 state = none) :
    .worker index ∈ state.shared.queue.readers ∨
      worker = .waiting ∧ state.shared.rendezvous.resume? (.worker index) = none ∨
      worker.isOver = true := by
  have shuts := (tame.within.workers index worker there).call
  rcases worker_waits few there resting with waits | ⟨-, held⟩ | waits | atEnd
  · rcases waits.asleep free with ⟨⟨item, pushing⟩, -⟩ | ⟨-, asleep⟩
    · exact absurd pushing (shuts.2.2 _)
    · exact Or.inl asleep
  · exact absurd free held
  · exact Or.inr (Or.inl waits)
  · exact Or.inr (Or.inr atEnd)

/-- Whoever asks for shutdown is not held up. -/
theorem requesters_satisfied (tame : state.Tame) (free : state.shared.queue.holder = none)
    (resting : ∀ index, (system around).step (.requester index) 0 state = none) :
    ∀ requester ∈ state.requesters, requester = .satisfied := by
  intro requester member
  rcases List.getElem?_of_mem member with ⟨index, there⟩
  cases requester with
  | satisfied => rfl
  | asking inside =>
      rcases Acting.call_eq_cancel String (tame.within.requesters _ _ there) with ⟨place, call⟩
      have waits := requester_waits there (resting index)
      rw [call] at waits
      rcases waits.asleep free with ⟨⟨item, pushing⟩, -⟩ | ⟨popping, -⟩
      · cases pushing
      · cases popping

/-- The reader has finished, or it sleeps in a push at a full queue. -/
theorem reader_rests (sound : state.Sound around source workers events)
    (stuck : (system around).Stuck state) :
    (∃ result, state.reader = .finished result) ∨
      state.shared.queue.writers ≠ [] ∧ state.shared.queue.ended = false := by
  have free := holder_eq_none_of_stuck sound stuck
  have shuts := sound.queued.tame.within.reader
  have ended := sound.queued.tame.ended
  rcases reader_waits (stuck .reader 0) with waits | finished
  · right
    generalize state.reader = reader at waits shuts ended
    rcases waits.asleep free with ⟨⟨item, pushing⟩, asleep⟩ | ⟨popping, -⟩
    · refine ⟨List.ne_nil_of_mem asleep, ?_⟩
      cases reader with
      | pushing rest reading push => simpa [Reader.HasEnded] using ended
      | acting rest reading inside =>
          rcases Acting.call_eq_cancel String shuts.2 with ⟨place, call⟩
          simp [Reader.call, call] at pushing
      | _ => simp [Reader.call] at pushing
    · cases reader with
      | acting rest reading inside =>
          rcases Acting.call_eq_cancel String shuts.2 with ⟨place, call⟩
          simp [Reader.call, call] at popping
      | _ => simp [Reader.call] at popping
  · exact Or.inl finished

/-- If no worker sleeps at the queue, all have left the ranks, and none is looking at the stream. -/
theorem workers_left (sound : state.Sound around source workers events)
    (stuck : (system around).Stuck state) (awake : state.shared.queue.readers = []) :
    ∀ (index : Nat) (worker : Worker), state.workers[index]? = some worker →
      worker.hasLeft = true ∧ worker.hasArrived = true ∧ ¬ worker.Probes := by
  have free := holder_eq_none_of_stuck sound stuck
  intro index worker there
  rcases worker_rests sound.queued.tame sound.ranked.few free there (stuck _ 0) with
    asleep | ⟨rfl, -⟩ | atEnd
  · simp [awake] at asleep
  · exact ⟨rfl, rfl, id⟩
  · cases worker with
    | ended | died => exact ⟨rfl, rfl, id⟩
    | _ => cases atEnd

/-- The reader does not sleep for ever. -/
theorem reader_finished (sound : state.Sound around source workers events)
    (watched : state.Watched) (some : 0 < workers) (stuck : (system around).Stuck state) :
    ∃ result, state.reader = .finished result := by
  rcases reader_rests sound stuck with finished | ⟨asleep, unended⟩
  · exact finished
  · have rest := rest_of_stuck stuck sound.ranked.few
    have consistent := sound.queued.consistent
    rcases sound.queued.attended.writer_rests consistent rest asleep with ⟨clear, full⟩
    have positive : 0 < state.shared.queue.ring.capacity := consistent.ring.capacity_pos
    have awake : state.shared.queue.readers = [] := by
      by_contra sleeping
      have empty := (sound.queued.attended.reader_rests consistent rest sleeping).2.2
      have filled := full unended
      omega
    have left := workers_left sound stuck awake
    have there : state.workers ≠ [] := by
      apply List.ne_nil_of_length_pos
      rw [sound.number]
      exact some
    have all : ∀ worker ∈ state.workers, worker.hasLeft = true := by
      intro worker member
      rcases List.getElem?_of_mem member with ⟨index, found⟩
      exact (left index worker found).1
    rcases watched there all with ended | flag | ⟨index, worker, found, probes⟩
    · rw [unended] at ended
      cases ended
    · rw [clear] at flag
      cases flag
    · exact absurd probes (left index worker found).2.2

/-- A state of a scan in which no thread has a step is one in which all threads have finished. -/
theorem over_of_stuck (sound : state.Sound around source workers events)
    (watched : state.Watched) (some : 0 < workers) (stuck : (system around).Stuck state) :
    state.Over around := by
  have free := holder_eq_none_of_stuck sound stuck
  rcases reader_finished sound watched some stuck with ⟨result, finished⟩
  have ended : state.shared.queue.ended = true := by
    rw [sound.queued.tame.ended, finished]
    trivial
  have left := workers_left sound stuck (sound.queued.attended.ended ended)
  have complete : state.shared.rendezvous.complete = true := by
    rw [sound.gathered.complete, List.countP_eq_length]
    intro worker member
    rcases List.getElem?_of_mem member with ⟨index, there⟩
    exact (left index worker there).2.1
  have atEnd : ∀ (index : Nat) (worker : Worker), state.workers[index]? = Option.some worker →
      worker.isOver = true := by
    intro index worker there
    rcases worker_rests sound.queued.tame sound.ranked.few free there (stuck _ 0) with
      asleep | ⟨-, resting⟩ | atEnd
    · simp [sound.queued.attended.ended ended] at asleep
    · have released := Rendezvous.arrival?_eq_complete_iff.mpr complete
      rw [Rendezvous.resume?_of_arrival? released (sound.gathered.awake complete)] at resting
      cases resting
    · exact atEnd
  have satisfied := requesters_satisfied sound.queued.tame free fun index => stuck _ 0
  refine ⟨⟨result, finished⟩, ?_, complete, satisfied, ?_⟩
  · intro index worker there
    have placed := sound.summed.placed index worker there
    cases worker with
    | ended => exact Or.inl rfl
    | died fault =>
        rcases placed with ⟨first, tally, received⟩
        exact Or.inr ⟨first, tally, fault, received, rfl⟩
    | _ => cases atEnd index _ there
  · have resting : state.coordinator.step state = none :=
      Option.map_eq_none_iff.mp (stuck .coordinator 0)
    have knows := sound.summed.coordinator
    unfold State.summary?
    generalize state.coordinator = coordinator at resting knows
    cases coordinator with
    | returned summary => exact ⟨summary, rfl⟩
    | died fault => exact knows.elim
    | awaitingReader =>
        simp [Coordinator.step, finished] at resting
    | awaitingWorkers reading following =>
        cases there : state.workers[following]? with
        | none => simp [Coordinator.step, there] at resting
        | some worker =>
            have finished := atEnd following worker there
            cases worker with
            | ended | died => simp [Coordinator.step, there] at resting
            | _ => cases finished
    | announcing | closing => cases resting
    | totalling reading =>
        simp only [Coordinator.step] at resting
        split at resting
        · cases resting
        · split at resting <;> cases resting

end Stuck

/-- Every state of a run is watched. -/
theorem watched_of_run {around : Surroundings} (only : around.ShutsDown) {capacity workers : Count}
    (positive : 0 < capacity.toNat) {source : List Feed} {requests : Nat} {events : List Event}
    {last : State}
    (run : (system around).Run (State.start capacity.toNat workers.toNat source requests)
      events last) : last.Watched := by
  have both : last.Sound around (source.map Feed.entry) workers.toNat events ∧ last.Watched := by
    induction run with
    | refl => exact ⟨sound_of_run only positive (.refl _), .start _ _ _ _⟩
    | tail thread pick _ stepped ih =>
        have moved := moved_of_step stepped
        exact ⟨ih.1.step only moved, ih.2.step ih.1 moved⟩
  exact both.2

/-- As long as a scan is not over, some thread of it has a step. -/
theorem over_or_step_of_run {around : Surroundings} (only : around.ShutsDown)
    {capacity workers : Count} (positive : 0 < capacity.toNat) (some : 0 < workers.toNat)
    {source : List Feed} {requests : Nat} {events : List Event} {last : State}
    (run : (system around).Run (State.start capacity.toNat workers.toNat source requests)
      events last) :
    last.Over around ∨ ∃ (thread : Thread) (pick : Nat) (next : State) (seen : List Event),
      (system around).step thread pick last = Option.some (next, seen) := by
  by_cases stuck : (system around).Stuck last
  · left
    exact over_of_stuck (sound_of_run only positive run) (watched_of_run only positive run) some
      stuck
  · right
    simp only [System.Stuck, not_forall] at stuck
    rcases stuck with ⟨thread, pick, moves⟩
    rcases Option.ne_none_iff_exists'.mp moves with ⟨⟨next, seen⟩, stepped⟩
    exact ⟨thread, pick, next, seen, stepped⟩

end Scan

end LineTally
