import LineTally.Proofs.Scan.Launch
import LineTally.Proofs.Scan.Progress

/-!
# A launch comes to an end

A launch in which no thread has a step is over.  Nobody holds the lock then.  If the coordinator has
not given up, all threads were started, and the scan is over.  Otherwise the queue is cancelled and
the rendezvous forfeited, so no worker that was started waits at either, and all of them have ended;
the coordinator has noticed and failed with the refusal.  Every step takes something off what there
is to do, so this is where every launch comes to.
-/

namespace LineTally.Scan

open Queue

variable {around : Surroundings} {refusals : Refusals} {launch next : Launch} {thread : Thread}
variable {events : List Event} {source : List Entry} {workers : Nat}

/-! ## The end -/

/-- How a launch is over. -/
inductive Launch.Over (around : Surroundings) (refusals : Refusals) (launch : Launch) : Prop where
  /-- All threads were started, and the scan is over. -/
  | complete (granted : ∀ index ≤ launch.scan.workers.length, refusals index = none)
      (result : ∃ summary, launch.result? = some (.ok summary)) (ended : launch.scan.Over around) :
      Over around refusals launch
  /-- A thread was refused and none before it; the workers that were started have ended, and the
  scan has failed with the refusal. -/
  | failed {failure : Failure} (granted : ∀ index < launch.started, refusals index = none)
      (refused : launch.Refused refusals failure) (result : launch.result? = some (.error failure))
      (ended : ∀ worker ∈ launch.crew, worker = .ended)
      (satisfied : ∀ requester ∈ launch.scan.requesters, requester = .satisfied) :
      Over around refusals launch
  /-- The same, but the first worker has summed up before, and the sink has ended it by a fault. -/
  | died {failure : Failure} (granted : ∀ index < launch.started, refusals index = none)
      (refused : launch.Refused refusals failure) (lost : launch.launcher = .died Launch.lostWorker)
      (atEnd : ∀ worker ∈ launch.crew, worker.isOver = true)
      (sink : ∃ tally fault, around.sink tally = some fault ∧
        launch.scan.workers[aggregator]? = some (.died fault))
      (satisfied : ∀ requester ∈ launch.scan.requesters, requester = .satisfied) :
      Over around refusals launch

section Stuck

/-- Why the coordinator has no step. -/
theorem Launch.waits (stuck : launch.advance refusals = none) :
    launch.launcher = .launched ∨
      (∃ failure call, launch.launcher = .cancelling failure call ∧
        (Call.cancel call : Call String).Waits launch.scan.shared.queue launch.canceller) ∨
      (∃ failure, launch.launcher = .awaiting failure ∧
        ∃ worker ∈ launch.crew, worker.isOver = false) ∨
      (∃ failure, launch.launcher = .failed failure) ∨
      ∃ fault, launch.launcher = .died fault := by
  unfold Launch.advance at stuck
  split at stuck
  next =>
    split at stuck
    next => cases stuck
    next => split at stuck <;> cases stuck
  next failure call there =>
    exact Or.inr (Or.inl ⟨failure, call, there, Cancel.waits (Option.map_eq_none_iff.mp stuck)⟩)
  next => cases stuck
  next failure there =>
    split at stuck
    next => cases stuck
    next running => exact Or.inr (Or.inr (Or.inl ⟨failure, there, by simpa using running⟩))
  next there => exact Or.inl there
  next failure there => exact Or.inr (Or.inr (Or.inr (Or.inl ⟨failure, there⟩)))
  next fault there => exact Or.inr (Or.inr (Or.inr (Or.inr ⟨fault, there⟩)))

variable (stuck : (launchSystem around refusals).Stuck launch)

include stuck

theorem advance_eq_none (going : launch.launcher ≠ .launched) :
    launch.advance refusals = none := by
  have resting := stuck .coordinator 0
  simpa [launchSystem, Launch.has, going] using resting

/-- A thread that was started has no step, seen with one more who asks for shutdown. -/
theorem view_resting (there : launch.has thread = true) (other : thread ≠ launch.canceller) :
    (system around).step thread 0 launch.view = none := by
  have resting := stuck thread 0
  simp only [launchSystem, there, if_true, Option.map_eq_none_iff] at resting
  rw [Launch.view, step_alongside other, resting]
  rfl

/-- In a launch without a step, every thread in a call waits there, or is not there yet. -/
theorem view_rests (sound : launch.Sound around refusals source workers)
    (going : launch.launcher ≠ .launched) (thread : Thread) :
    (launch.view.calls thread).Rests launch.view.shared.queue thread := by
  have few : launch.view.workers.length < Count.limit := by
    rcases sound.fits with ⟨_, fits⟩
    exact fits.few
  by_cases cancels : thread = launch.canceller
  · rw [cancels, launch.view_calls_canceller]
    rcases Launch.waits (advance_eq_none stuck going) with
      same | ⟨failure, call, same, waits⟩ | ⟨failure, same, -⟩ | ⟨failure, same⟩ | ⟨fault, same⟩
    · exact absurd same going
    · rw [same]
      exact Or.inr waits
    all_goals
      rw [same]
      exact Or.inl .away
  by_cases there : launch.has thread = true
  · exact rests_of_resting few (view_resting stuck there cancels)
  · left
    cases thread with
    | reader =>
        change launch.scan.reader.call.Idle
        rw [sound.unread going]
        exact .away
    | worker index =>
        have unstarted : launch.started ≤ index := by simpa [Launch.has] using there
        cases found : launch.view.workers[index]? with
        | none =>
            simp only [State.calls, found]
            exact .away
        | some worker =>
            rw [calls_worker found, sound.fresh index worker unstarted found]
            exact .pop
    | requester index => exact absurd rfl there
    | coordinator => exact .away

/-- In a launch without a step, whoever asked for shutdown is satisfied. -/
theorem launch_satisfied_of_stuck (sound : launch.Sound around refusals source workers)
    (gone : launch.launcher.requester = .satisfied) :
    ∀ requester ∈ launch.scan.requesters, requester = .satisfied := by
  rcases sound.fits with ⟨before, fits⟩
  have going : launch.launcher ≠ .launched := by
    intro launched
    rw [launched] at gone
    cases gone
  have free := fits.queued.consistent.holder_eq_none (view_rests stuck sound going)
  have resting (index : Nat) : (system around).step (.requester index) 0 launch.view = none := by
    by_cases cancels : Thread.requester index = launch.canceller
    · cases cancels
      simp [system, Launch.view, getElem?_alongside, gone]
    · exact view_resting stuck rfl cancels
  intro requester member
  exact requesters_satisfied fits.queued.tame free resting requester
    (List.mem_append_left _ member)

/-- In a launch without a step, no worker keeps a coordinator waiting that has given up: nobody
sleeps at a cancelled queue, nor at a rendezvous that was forfeited. -/
theorem crew_over_of_stuck (sound : launch.Sound around refusals source workers)
    {failure : Failure} (place : launch.launcher = .awaiting failure) :
    ∀ worker ∈ launch.crew, worker.isOver = true := by
  rcases sound.fits with ⟨before, fits⟩
  have behind : launch.launcher.HasForfeited := by
    rw [place]
    trivial
  have cancelled : launch.view.shared.queue.cancelled = true := by
    have knows := sound.knows
    rw [place] at knows
    exact knows.2
  have consistent := fits.queued.consistent
  have rest := view_rests stuck sound (by simp [place])
  have free := consistent.holder_eq_none rest
  intro worker among
  rcases exists_of_mem_crew among with ⟨index, started, there⟩
  have resting : (system around).step (.worker index) 0 launch.view = none :=
    view_resting stuck (by simp [Launch.has, started]) nofun
  rcases worker_rests fits.queued.tame fits.few free there resting with
    asleep | ⟨-, waits⟩ | atEnd
  · have clear := fits.queued.attended.clear_of_rest consistent rest
      (Or.inl (List.ne_nil_of_mem asleep))
    cases clear.symm.trans cancelled
  · exact absurd waits (fits.resumes behind _)
  · exact atEnd

/-- A launch that has not started all threads is over if no thread has a step. -/
theorem launch_over_of_stuck (sound : launch.Sound around refusals source workers)
    (going : launch.launcher ≠ .launched) : launch.Over around refusals := by
  have knows := sound.knows
  rcases Launch.waits (advance_eq_none stuck going) with
    place | ⟨failure, call, place, waits⟩ | ⟨failure, place, worker, among, running⟩ |
    ⟨failure, place⟩ | ⟨fault, place⟩
  · exact absurd place going
  · rcases sound.fits with ⟨before, fits⟩
    have free := fits.queued.consistent.holder_eq_none (view_rests stuck sound going)
    rcases waits.asleep free with ⟨⟨item, pushing⟩, -⟩ | ⟨popping, -⟩
    · cases pushing
    · cases popping
  · cases running.symm.trans (crew_over_of_stuck stuck sound place worker among)
  · have satisfied := launch_satisfied_of_stuck stuck sound (by rw [place]; rfl)
    rw [place] at knows
    exact .failed sound.granted knows.1 (by simp [Launch.result?, place]) knows.2 satisfied
  · have satisfied := launch_satisfied_of_stuck stuck sound (by rw [place]; rfl)
    rw [place] at knows
    rcases knows with ⟨⟨failure, refused⟩, atEnd, rfl, worker, among, dead⟩
    rcases exists_of_mem_crew among with ⟨index, started, there⟩
    rcases sound.fits with ⟨before, fits⟩
    cases worker with
    | died fault =>
        rcases fits.placed there with ⟨rfl, tally, received⟩
        exact .died sound.granted refused place atEnd ⟨tally, fault, received, there⟩ satisfied
    | _ => cases dead

/-- When all threads were started, no thread of the scan has a step either. -/
theorem scan_stuck_of_stuck (sound : launch.Sound around refusals source workers)
    (launched : launch.launcher = .launched) : (system around).Stuck launch.scan := by
  intro thread pick
  by_cases there : launch.has thread = true
  · simpa [launchSystem, there] using stuck thread pick
  · cases thread with
    | worker index =>
        have unstarted : launch.started ≤ index := by simpa [Launch.has] using there
        have knows := sound.knows
        rw [launched] at knows
        have none : launch.scan.workers[index]? = none :=
          List.getElem?_eq_none (knows.1 ▸ unstarted)
        simp [system, none]
    | reader | coordinator => simp [Launch.has, launched] at there
    | requester => exact absurd rfl there

end Stuck

/-- As long as a launch is not over, some thread of it has a step. -/
theorem launch_over_or_step_of_run (only : around.ShutsDown) {capacity workers : Count}
    (positive : 0 < capacity.toNat) (some : 0 < workers.toNat) {source : List Feed}
    {requests : Nat}
    (run : (launchSystem around refusals).Run
      (Launch.start capacity.toNat workers.toNat source requests) events launch) :
    launch.Over around refusals ∨
      ∃ (thread : Thread) (pick : Nat) (next : Launch) (seen : List Event),
        (launchSystem around refusals).step thread pick launch = Option.some (next, seen) := by
  have sound := launch_sound_of_run only positive run
  by_cases stuck : (launchSystem around refusals).Stuck launch
  · left
    by_cases launched : launch.launcher = .launched
    · have scanned : (system around).Run
          (State.start capacity.toNat workers.toNat source requests) events launch.scan :=
        run_of_launch_run run (by rw [launched]; trivial)
      have ended := over_of_stuck (sound_of_run only positive scanned)
        (watched_of_run only positive scanned) some (scan_stuck_of_stuck stuck sound launched)
      rcases ended.coordinator with ⟨summary, returned⟩
      have knows := sound.knows
      rw [launched] at knows
      refine .complete ?_ ⟨summary, by simp [Launch.result?, launched, returned]⟩ ended
      intro index within
      rcases Nat.lt_or_eq_of_le within with before | rfl
      · exact sound.granted index (knows.1 ▸ before)
      · exact knows.1 ▸ knows.2
    · exact launch_over_of_stuck stuck sound launched
  · right
    simp only [System.Stuck, not_forall] at stuck
    rcases stuck with ⟨thread, pick, moves⟩
    rcases Option.ne_none_iff_exists'.mp moves with ⟨⟨next, seen⟩, stepped⟩
    exact ⟨thread, pick, next, seen, stepped⟩

/-- If the second of two workers is refused, the first ends although no reader ever comes. -/
example : ((launchSystem { predicate := .ofTest fun _ => false }
    (fun index => if index = 1 then some { message := "no thread" } else none)).settle
      (fun _ => [.worker 0, .coordinator]) 60 (Launch.start 1 2 [] 0)).1.result? =
        some (.error (.resource "worker 1" { message := "no thread" })) := by
  decide +kernel

/-! ## How long it takes -/

def Launcher.weight (missing : Nat) : Launcher → Nat
  | .starting => missing + 4
  | .cancelling _ _ => 3
  | .forfeiting _ => 2
  | .awaiting _ => 1
  | .launched | .failed _ | .died _ => 0

def Launch.weight (around : Surroundings) (launch : Launch) : Nat :=
  launch.view.weight around +
    launch.launcher.weight (launch.scan.workers.length - launch.started)

/-- Every step of a launch takes something off. -/
theorem Launch.Sound.weight_lt (sound : launch.Sound around refusals source workers)
    (moved : Launch.Moved around refusals launch thread next events) :
    next.weight around < launch.weight around := by
  rcases sound.fits with ⟨before, fits⟩
  have lighter {thread : Thread} {view : State} {events : List Event}
      (moved : Scan.Moved around launch.view thread view events) :
      view.weight around < launch.view.weight around :=
    State.weight_lt fits.queued.consistent fits.rouses moved
  unfold Launch.weight
  cases moved with
  | scans there stepped =>
      have length := (moved_of_step stepped).length_workers
      have less := lighter (moved_view stepped)
      simp only [length]
      omega
  | advances turn =>
      cases turn with
      | starts there granted more =>
          simp only [Launch.view, there, Launcher.weight]
          omega
      | completes there | isRefused there | fails there | dies there =>
          simp only [Launch.view, there, Launcher.weight, Launcher.requester]
          omega
      | @cancels _ _ move there stepped =>
          have cancels : ∃ events, Scan.Moved around _ _ _ events :=
            moved_view_of_cancel there stepped
          rcases cancels with ⟨events, moved⟩
          have less := lighter moved
          rw [there]
          cases progress : move.progress <;>
          · simp only [progress, Launcher.afterCancel, Launcher.weight] at less ⊢
            omega
      | forfeits there =>
          -- Nothing weighs what the rendezvous changes.
          simp only [Launch.view, State.alongside, State.weight, State.crowd, there,
            Launcher.weight, Launcher.requester]
          omega

theorem Launch.weight_start (around : Surroundings) (capacity workers : Nat) (source : List Feed)
    (requests : Nat) : (Launch.start capacity workers source requests).weight around =
      (State.start capacity workers source (requests + 1)).weight around + (workers + 4) := by
  rw [← State.start_alongside]
  simp [Launch.weight, Launch.view, Launch.start, Launcher.weight, Launcher.requester, State.start]

/-- No sequence of steps of a launch is longer than the budget of its scan with one more who asks
for shutdown, and a few steps for the threads to start. -/
theorem launch_length_le (only : around.ShutsDown) {capacity workers : Count}
    (positive : 0 < capacity.toNat) {source : List Feed} {requests number : Nat}
    (steps : (launchSystem around refusals).Steps
      (Launch.start capacity.toNat workers.toNat source requests) number launch) :
    number ≤ (State.start capacity.toNat workers.toNat source (requests + 1)).budget around +
      (workers.toNat + 4) := by
  have bound : number + launch.weight around ≤
      (Launch.start capacity.toNat workers.toNat source requests).weight around := by
    apply steps.length_le
    intro events state thread pick next seen run stepped
    exact (launch_sound_of_run only positive run).weight_lt (launch_moved_of_step stepped)
  have light := State.weight_start_le around capacity.toNat workers.toNat source (requests + 1)
  rw [Launch.weight_start] at bound
  omega

end LineTally.Scan
