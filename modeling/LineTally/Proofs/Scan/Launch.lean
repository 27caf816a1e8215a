import LineTally.Proofs.Scan.Alongside
import LineTally.Proofs.Scan.Forfeit
import LineTally.Scan.Launch

/-!
# A scan whose threads cannot all be started

As long as no thread is refused, the threads that are there do what they do in a scan whose threads
were all there from the start; and all that such a scan can do, a launch can do that is refused no
thread.  A coordinator that gives up is, for the others, one more who asks for shutdown.  When it has
forfeited the rendezvous, either it was too late for that, and all holds still that holds of scans,
or nobody waits at the rendezvous any more.
-/

namespace LineTally.Scan

open Queue

variable {around : Surroundings} {refusals : Refusals} {launch next : Launch} {thread : Thread}
variable {events : List Event}

/-! ## Steps -/

/-- The thread was refused that would have come next, and this is the failure. -/
def Launch.Refused (refusals : Refusals) (launch : Launch) (failure : Failure) : Prop :=
  ∃ error, refusals launch.started = some error ∧ failure = .resource launch.nextName error

/-- The steps of the coordinator before it waits for the reader. -/
inductive Launch.Turn (refusals : Refusals) (launch : Launch) : Launch → Prop where
  | starts (there : launch.launcher = .starting) (granted : refusals launch.started = none)
      (more : launch.started < launch.scan.workers.length) :
      Turn refusals launch { launch with started := launch.started + 1 }
  | completes (there : launch.launcher = .starting) (granted : refusals launch.started = none)
      (all : launch.scan.workers.length ≤ launch.started) :
      Turn refusals launch { launch with launcher := .launched }
  | isRefused {failure : Failure} (there : launch.launcher = .starting)
      (refused : launch.Refused refusals failure) :
      Turn refusals launch { launch with launcher := .cancelling failure .raising }
  | cancels {failure : Failure} {call : Cancel} {move : Move Thread String Cancel Bool}
      (there : launch.launcher = .cancelling failure call)
      (stepped : call.step launch.scan.shared.queue launch.canceller = some move) :
      Turn refusals launch { launch with
        scan := { launch.scan with shared := { launch.scan.shared with queue := move.queue } }
        launcher := .afterCancel failure move.progress }
  | forfeits {failure : Failure} (there : launch.launcher = .forfeiting failure) :
      Turn refusals launch { launch with
        scan := { launch.scan with
          shared := { launch.scan.shared with
            rendezvous := launch.scan.shared.rendezvous.forfeit } }
        launcher := .awaiting failure }
  | fails {failure : Failure} (there : launch.launcher = .awaiting failure)
      (ended : ∀ worker ∈ launch.crew, worker = .ended) :
      Turn refusals launch { launch with launcher := .failed failure }
  | dies {failure : Failure} {worker : Worker} (there : launch.launcher = .awaiting failure)
      (atEnd : ∀ worker ∈ launch.crew, worker.isOver = true) (among : worker ∈ launch.crew)
      (dead : worker.hasDied = true) :
      Turn refusals launch { launch with launcher := .died Launch.lostWorker }

theorem Launch.turn (stepped : launch.advance refusals = some next) :
    Launch.Turn refusals launch next := by
  unfold Launch.advance at stepped
  split at stepped
  next there =>
    split at stepped
    next error refused =>
      cases stepped
      exact .isRefused there ⟨error, refused, rfl⟩
    next granted =>
      split at stepped
      next more =>
        cases stepped
        exact .starts there granted more
      next all =>
        cases stepped
        exact .completes there granted (Nat.not_lt.mp all)
  next failure call there =>
    rcases Option.map_eq_some_iff.mp stepped with ⟨move, moved, rfl⟩
    exact .cancels there moved
  next failure there =>
    cases stepped
    exact .forfeits there
  next failure there =>
    split at stepped
    next all =>
      cases stepped
      have atEnd := List.all_eq_true.mp all
      split
      next died =>
        rcases List.any_eq_true.mp died with ⟨worker, among, dead⟩
        exact .dies there atEnd among dead
      next alive =>
        refine .fails there fun worker among => ?_
        have living : worker.hasDied ≠ true := fun dead =>
          alive (List.any_eq_true.mpr ⟨worker, among, dead⟩)
        have gone := atEnd worker among
        cases worker with
        | ended => rfl
        | died fault => exact absurd rfl living
        | _ => cases gone
    next => cases stepped
  all_goals cases stepped

/-- The steps of a launch. -/
inductive Launch.Moved (around : Surroundings) (refusals : Refusals) (launch : Launch) :
    Thread → Launch → List Event → Prop where
  | scans {thread : Thread} {pick : Nat} {scan : State} {events : List Event}
      (there : launch.has thread = true)
      (stepped : (system around).step thread pick launch.scan = some (scan, events)) :
      Moved around refusals launch thread { launch with scan } events
  | advances {next : Launch} (turn : Launch.Turn refusals launch next) :
      Moved around refusals launch .coordinator next []

theorem launch_moved_of_step {pick : Nat}
    (stepped : (launchSystem around refusals).step thread pick launch = some (next, events)) :
    Launch.Moved around refusals launch thread next events := by
  simp only [launchSystem] at stepped
  split at stepped
  next there =>
    rcases Option.map_eq_some_iff.mp stepped with ⟨⟨scan, seen⟩, moved, same⟩
    cases same
    exact .scans there moved
  next =>
    split at stepped
    next coordinates =>
      rcases Option.map_eq_some_iff.mp stepped with ⟨after, advanced, same⟩
      cases same
      subst coordinates
      exact .advances (Launch.turn advanced)
    next => cases stepped

/-! ## As long as no thread is refused -/

/-- No thread has been refused. -/
def Launcher.Goes : Launcher → Prop
  | .starting | .launched => True
  | _ => False

theorem Launch.Turn.goes (turn : Launch.Turn refusals launch next) (goes : next.launcher.Goes) :
    launch.launcher.Goes ∧ next.scan = launch.scan := by
  cases turn with
  | starts there | completes there =>
      rw [there]
      exact ⟨trivial, rfl⟩
  | isRefused | forfeits | fails | dies => exact goes.elim
  | @cancels _ _ move =>
      generalize move.progress = progress at goes
      cases progress <;> exact goes.elim

/-- As long as no thread is refused, the threads of a launch run as the threads of a scan. -/
theorem run_of_launch_run
    (run : (launchSystem around refusals).Run launch events next) (goes : next.launcher.Goes) :
    (system around).Run launch.scan events next.scan := by
  induction run with
  | refl => exact .refl _
  | tail thread pick _ stepped ih =>
      cases launch_moved_of_step stepped with
      | scans there moved => exact (ih goes).tail _ _ moved
      | advances turn =>
          rcases turn.goes goes with ⟨before, same⟩
          rw [same, List.append_nil]
          exact ih before

/-- One worker is started after the other. -/
theorem run_starting {scan : State} (granted : ∀ index ≤ scan.workers.length, refusals index = none)
    {started : Nat} (few : started ≤ scan.workers.length) :
    (launchSystem around refusals).Run { scan } [] { scan, started } := by
  induction started with
  | zero => exact .refl _
  | succ started ih =>
      refine (ih (Nat.le_of_succ_le few)).tail .coordinator 0 ?_
      have more : started < scan.workers.length := few
      simp [launchSystem, Launch.has, Launch.advance, granted started (Nat.le_of_succ_le few), more]

theorem length_workers_of_run {scan last : State} (run : (system around).Run scan events last) :
    last.workers.length = scan.workers.length := by
  induction run with
  | refl => rfl
  | tail thread pick _ stepped ih => exact (moved_of_step stepped).length_workers.trans ih

/-- If no thread is refused, a launch can do all that a scan can whose threads are there from the
start. -/
theorem launch_run_of_run {scan last : State}
    (granted : ∀ index ≤ scan.workers.length, refusals index = none)
    (run : (system around).Run scan events last) :
    (launchSystem around refusals).Run { scan } events
      { scan := last, started := scan.workers.length, launcher := .launched } := by
  induction run with
  | refl =>
      refine (run_starting granted (Nat.le_refl _)).tail .coordinator 0 ?_
      simp [launchSystem, Launch.has, Launch.advance, granted]
  | @tail middle _ _ _ thread pick early stepped ih =>
      refine ih.tail thread pick ?_
      have there : ({ scan := middle, started := scan.workers.length, launcher := .launched } :
          Launch).has thread = true := by
        cases thread with
        | worker index =>
            rcases Option.bind_eq_some_iff.mp stepped with ⟨worker, found, -⟩
            have inside := (List.getElem?_eq_some_iff.mp found).1
            simpa [Launch.has, length_workers_of_run early] using inside
        | reader | requester | coordinator => rfl
      simp [launchSystem, there, stepped]

/-! ## The coordinator as one more who asks for shutdown -/

/-- Where the coordinator is with its request for shutdown, should it give up. -/
def Launcher.requester : Launcher → Requester
  | .starting | .launched => .asking (.shuttingDown .raising)
  | .cancelling _ call => .asking (.shuttingDown call)
  | .forfeiting _ | .awaiting _ | .failed _ | .died _ => .satisfied

/-- The scan, with its coordinator as one more who asks for shutdown. -/
def Launch.view (launch : Launch) : State :=
  launch.scan.alongside launch.launcher.requester

theorem Launch.view_calls_canceller (launch : Launch) :
    launch.view.calls launch.canceller = launch.launcher.requester.call :=
  calls_requester (getElem?_alongside launch.scan _)

/-- The steps of the threads that were started are steps of the scan with one more who asks. -/
theorem moved_view {scan : State} {pick : Nat}
    (stepped : (system around).step thread pick launch.scan = some (scan, events)) :
    Moved around launch.view thread ({ launch with scan } : Launch).view events := by
  have other : thread ≠ .requester launch.scan.requesters.length := by
    rintro rfl
    simp [system] at stepped
  apply @moved_of_step _ _ _ _ pick
  rw [Launch.view, step_alongside other, stepped]
  rfl

/-- So are the steps of the coordinator that cancels the queue. -/
theorem moved_view_of_cancel {failure : Failure} {call : Cancel}
    {move : Move Thread String Cancel Bool} (there : launch.launcher = .cancelling failure call)
    (stepped : call.step launch.scan.shared.queue launch.canceller = some move) :
    ∃ events, Moved around launch.view launch.canceller
      ({ launch with
        scan := { launch.scan with shared := { launch.scan.shared with queue := move.queue } }
        launcher := .afterCancel failure move.progress } : Launch).view events := by
  rw [Launch.view, there]
  cases progress : move.progress with
  | «at» next =>
      have acted : (Acting.shuttingDown call).step launch.scan.shared.queue launch.canceller =
          some { queue := move.queue, progress := .at (.shuttingDown next) } := by
        simp [Acting.step, stepped, progress]
      exact moved_alongside acted
  | returned first =>
      have acted : (Acting.shuttingDown call).step launch.scan.shared.queue launch.canceller =
          some {
            queue := move.queue, progress := .returned first, log := shutdownNotice first } := by
        simp [Acting.step, stepped, progress]
      exact moved_alongside acted

/-! ## What holds of the scan -/

/-- The coordinator has forfeited the rendezvous. -/
def Launcher.HasForfeited : Launcher → Prop
  | .awaiting _ | .failed _ | .died _ => True
  | _ => False

/-- What holds of the scan of a launch, with the coordinator as one more who asks. -/
inductive Launch.Fits (around : Surroundings) (source : List Entry) (workers : Nat)
    (events : List Event) (launch : Launch) : Prop where
  /-- All that holds of scans: if the rendezvous was forfeited, that was too late. -/
  | whole (sound : launch.view.Sound around source workers events)
      (complete : launch.launcher.HasForfeited →
        launch.view.shared.rendezvous.complete = true) : Fits around source workers events launch
  /-- The rendezvous was forfeited in time. -/
  | forfeited (queued : launch.view.Queued source events) (forfeited : launch.view.Forfeited)
      (behind : launch.launcher.HasForfeited) : Fits around source workers events launch

namespace Launch.Fits

variable {source : List Entry} {workers : Nat} {before : List Event}

theorem queued (fits : launch.Fits around source workers before) :
    launch.view.Queued source before := by
  cases fits with
  | whole sound => exact sound.queued
  | forfeited queued => exact queued

theorem few (fits : launch.Fits around source workers before) :
    launch.view.workers.length < Count.limit := by
  cases fits with
  | whole sound => exact sound.ranked.few
  | forfeited _ forfeited => exact forfeited.few

theorem rouses (fits : launch.Fits around source workers before) : launch.view.Rouses := by
  cases fits with
  | whole sound => exact sound.gathered.rouses
  | forfeited _ forfeited => exact forfeited.rouses

/-- Before the rendezvous is forfeited, all holds that holds of scans. -/
theorem sound (fits : launch.Fits around source workers before)
    (ahead : ¬ launch.launcher.HasForfeited) :
    launch.view.Sound around source workers before := by
  cases fits with
  | whole sound => exact sound
  | forfeited _ _ behind => exact absurd behind ahead

/-- Nobody waits at the rendezvous when it has been forfeited, whether or not it was in time. -/
theorem resumes (fits : launch.Fits around source workers before)
    (behind : launch.launcher.HasForfeited) (me : Thread) :
    launch.view.shared.rendezvous.resume? me ≠ none := by
  cases fits with
  | whole sound complete =>
      have released := Rendezvous.arrival?_eq_complete_iff.mpr (complete behind)
      rw [Rendezvous.resume?_of_arrival? released (sound.gathered.awake (complete behind))]
      nofun
  | forfeited _ forfeited =>
      rw [forfeited.resume_eq]
      nofun

/-- Only the sink ends a worker by a fault. -/
theorem placed (fits : launch.Fits around source workers before) {index : Nat} {fault : Fault}
    (there : launch.scan.workers[index]? = some (.died fault)) :
    index = aggregator ∧ ∃ tally, around.sink tally = some fault := by
  cases fits with
  | whole sound => exact sound.summed.placed index _ there
  | forfeited _ forfeited => cases forfeited.past _ (List.mem_of_getElem? there) rfl

theorem congr (fits : launch.Fits around source workers before) (view : next.view = launch.view)
    (behind : next.launcher.HasForfeited ↔ launch.launcher.HasForfeited) :
    next.Fits around source workers before := by
  cases fits with
  | whole sound complete =>
      exact .whole (view ▸ sound) (view ▸ fun gone => complete (behind.mp gone))
  | forfeited queued forfeited gone =>
      exact .forfeited (view ▸ queued) (view ▸ forfeited) (behind.mpr gone)

theorem scans (only : around.ShutsDown) (fits : launch.Fits around source workers before)
    {scan : State} {pick : Nat}
    (stepped : (system around).step thread pick launch.scan = some (scan, events)) :
    ({ launch with scan } : Launch).Fits around source workers (before ++ events) := by
  have moved := moved_view stepped
  cases fits with
  | whole sound complete =>
      exact .whole (sound.step only moved) fun behind =>
        sound.gathered.complete_of_moved moved (complete behind)
  | forfeited queued forfeited behind =>
      exact .forfeited (queued.step only moved) (forfeited.step moved) behind

/-- The rendezvous is forfeited: in time, or nothing comes of it. -/
theorem forfeits (fits : launch.Fits around source workers before) {failure : Failure}
    (there : launch.launcher = .forfeiting failure) :
    ({ launch with
      scan := { launch.scan with
        shared := { launch.scan.shared with
          rendezvous := launch.scan.shared.rendezvous.forfeit } }
      launcher := .awaiting failure } : Launch).Fits around source workers before := by
  have sound := fits.sound (by rw [there]; exact id)
  have queued := sound.queued.elsewhere launch.scan.shared.rendezvous.forfeit
  have forfeited := sound.gathered.forfeit sound.ranked.few
  rw [Launch.view, there] at sound queued forfeited
  cases complete : launch.scan.shared.rendezvous.complete with
  | true =>
      have same : launch.scan.shared.rendezvous.forfeit = launch.scan.shared.rendezvous :=
        if_pos complete
      rw [same]
      exact .whole sound fun _ => complete
  | false => exact .forfeited queued (forfeited complete) trivial

theorem advances (only : around.ShutsDown) (fits : launch.Fits around source workers before)
    (turn : Launch.Turn refusals launch next) :
    ∃ events, next.Fits around source workers (before ++ events) := by
  have still (fits : next.Fits around source workers before) :
      ∃ events, next.Fits around source workers (before ++ events) :=
    ⟨[], (List.append_nil before).symm ▸ fits⟩
  cases turn with
  | starts => exact still (fits.congr rfl Iff.rfl)
  | completes there | isRefused there | fails there | dies there =>
      exact still (fits.congr (by simp [Launch.view, there, Launcher.requester])
        (by simp [there, Launcher.HasForfeited]))
  | @cancels _ _ move there stepped =>
      have sound := fits.sound (by rw [there]; exact id)
      rcases moved_view_of_cancel there stepped with ⟨events, moved⟩
      refine ⟨events, .whole (sound.step only moved) fun behind => ?_⟩
      generalize move.progress = progress at behind
      cases progress <;> exact behind.elim
  | forfeits there => exact still (fits.forfeits there)

end Launch.Fits

/-! ## What the coordinator knows -/

/-- What the coordinator knows. -/
def Launcher.Knows (refusals : Refusals) (launch : Launch) : Launcher → Prop
  | .starting => True
  | .launched => launch.started = launch.scan.workers.length ∧ refusals launch.started = none
  | .cancelling failure _ => launch.Refused refusals failure
  | .forfeiting failure | .awaiting failure =>
      launch.Refused refusals failure ∧ launch.scan.shared.queue.cancelled = true
  | .failed failure =>
      launch.Refused refusals failure ∧ ∀ worker ∈ launch.crew, worker = .ended
  | .died fault =>
      (∃ failure, launch.Refused refusals failure) ∧
        (∀ worker ∈ launch.crew, worker.isOver = true) ∧
        fault = Launch.lostWorker ∧ ∃ worker ∈ launch.crew, worker.hasDied = true

/-- What holds of every state of a launch. -/
structure Launch.Sound (around : Surroundings) (refusals : Refusals) (source : List Entry)
    (workers : Nat) (launch : Launch) : Prop where
  fits : ∃ events, launch.Fits around source workers events
  few : launch.started ≤ launch.scan.workers.length
  granted : ∀ index < launch.started, refusals index = none
  fresh : ∀ (index : Nat) (worker : Worker), launch.started ≤ index →
    launch.scan.workers[index]? = some worker → worker = .consuming .start
  unread : launch.launcher ≠ .launched → launch.scan.reader = .start source
  knows : launch.launcher.Knows refusals launch

theorem mem_crew {index : Nat} {worker : Worker} (started : index < launch.started)
    (there : launch.scan.workers[index]? = some worker) : worker ∈ launch.crew := by
  apply List.mem_of_getElem? (i := index)
  rw [Launch.crew, List.getElem?_take_of_lt started, there]

theorem exists_of_mem_crew {worker : Worker} (among : worker ∈ launch.crew) :
    ∃ index < launch.started, launch.scan.workers[index]? = some worker := by
  rcases List.getElem?_of_mem among with ⟨index, there⟩
  have inside := (List.getElem?_eq_some_iff.mp there).1
  rw [Launch.crew, List.length_take] at inside
  have started : index < launch.started := by omega
  rw [Launch.crew, List.getElem?_take_of_lt started] at there
  exact ⟨index, started, there⟩

/-- Workers that are over do not move. -/
theorem crew_of_over {scan : State} {pick : Nat} (there : launch.has thread = true)
    (stepped : (system around).step thread pick launch.scan = some (scan, events))
    (atEnd : ∀ worker ∈ launch.crew, worker.isOver = true) :
    ({ launch with scan } : Launch).crew = launch.crew := by
  cases moved_of_step stepped with
  | worker number found moved =>
      have started : number.toNat < launch.started := by simpa [Launch.has] using there
      have running := (Worker.turn moved).isOver_eq_false
      rw [atEnd _ (mem_crew started found)] at running
      cases running
  | reader | requester | coordinator => rfl

namespace Launch.Sound

variable {source : List Entry} {workers : Nat}

theorem scans (only : around.ShutsDown) (sound : launch.Sound around refusals source workers)
    {scan : State} {pick : Nat} (there : launch.has thread = true)
    (stepped : (system around).step thread pick launch.scan = some (scan, events)) :
    ({ launch with scan } : Launch).Sound around refusals source workers := by
  have moved := moved_of_step stepped
  have length := moved.length_workers
  rcases moved.moves with ⟨transfer, moves, -, -⟩
  have set := moves.advances.cancelled_mono
  have refused {failure : Failure} (refused : launch.Refused refusals failure) :
      ({ launch with scan } : Launch).Refused refusals failure := by
    rcases refused with ⟨error, refused, rfl⟩
    exact ⟨error, refused, by simp [nextName, length]⟩
  constructor
  case fits =>
    rcases sound.fits with ⟨before, fits⟩
    exact ⟨_, fits.scans only stepped⟩
  case few => exact length ▸ sound.few
  case granted => exact sound.granted
  case fresh =>
    intro index worker (unstarted : launch.started ≤ index) found
    cases moved with
    | worker number =>
        have started : number.toNat < launch.started := by simpa [Launch.has] using there
        rw [List.getElem?_set_ne (by omega)] at found
        exact sound.fresh index worker unstarted found
    | reader | requester | coordinator => exact sound.fresh index worker unstarted found
  case unread =>
    intro going
    cases moved with
    | reader => simp [Launch.has, going] at there
    | worker | requester | coordinator => exact sound.unread going
  case knows =>
    have knows := sound.knows
    have crew := crew_of_over there stepped
    dsimp only
    generalize launch.launcher = launcher at knows crew refused ⊢
    cases launcher with
    | starting => trivial
    | launched => exact ⟨knows.1.trans length.symm, knows.2⟩
    | cancelling => exact refused knows
    | forfeiting | awaiting => exact ⟨refused knows.1, set knows.2⟩
    | failed =>
        refine ⟨refused knows.1, ?_⟩
        rw [crew fun worker among => knows.2 worker among ▸ rfl]
        exact knows.2
    | died =>
        refine ⟨knows.1.imp fun _ => refused, ?_⟩
        rw [crew knows.2.1]
        exact knows.2

theorem knows_advances (sound : launch.Sound around refusals source workers)
    (turn : Launch.Turn refusals launch next) : next.launcher.Knows refusals next := by
  have knows := sound.knows
  cases turn with
  | starts there =>
      dsimp only
      rw [there]
      trivial
  | completes there granted all => exact ⟨Nat.le_antisymm sound.few all, granted⟩
  | isRefused there refused => exact refused
  | @cancels _ call move there stepped =>
      rw [there] at knows
      dsimp only
      cases progress : move.progress with
      | «at» following => exact knows
      | returned first =>
          rcases sound.fits with ⟨before, fits⟩
          have ground := (fits.queued.consistent.fits launch.canceller).ground
          rw [launch.view_calls_canceller, there] at ground
          cases Cancel.eq_of_returned stepped progress
          cases stepped
          exact ⟨knows, ground⟩
  | forfeits there =>
      rw [there] at knows
      exact knows
  | fails there ended =>
      rw [there] at knows
      exact ⟨knows.1, ended⟩
  | dies there atEnd among dead =>
      rw [there] at knows
      exact ⟨⟨_, knows.1⟩, atEnd, rfl, _, among, dead⟩

theorem advances (only : around.ShutsDown) (sound : launch.Sound around refusals source workers)
    (turn : Launch.Turn refusals launch next) : next.Sound around refusals source workers := by
  have knows := sound.knows_advances turn
  have fits : ∃ events, next.Fits around source workers events := by
    rcases sound.fits with ⟨before, fits⟩
    exact (fits.advances only turn).imp' _ fun _ => id
  cases turn with
  | starts there granted more =>
      exact {
        fits
        few := more
        granted := fun index before => (Nat.lt_succ_iff_lt_or_eq.mp before).elim
          (sound.granted index) fun same => same ▸ granted
        fresh := fun index worker unstarted =>
          sound.fresh index worker (Nat.le_of_succ_le unstarted)
        unread := sound.unread
        knows }
  | completes there => exact { sound with fits, unread := fun going => absurd rfl going, knows }
  | isRefused there | cancels there | forfeits there | fails there | dies there =>
      exact { sound with fits, unread := fun _ => sound.unread (by simp [there]), knows }

theorem step (only : around.ShutsDown) (sound : launch.Sound around refusals source workers)
    (moved : Launch.Moved around refusals launch thread next events) :
    next.Sound around refusals source workers := by
  cases moved with
  | scans there stepped => exact sound.scans only there stepped
  | advances turn => exact sound.advances only turn

end Launch.Sound

/-- Every state of a launch is sound. -/
theorem launch_sound_of_run (only : around.ShutsDown) {capacity workers : Count}
    (positive : 0 < capacity.toNat) {source : List Feed} {requests : Nat}
    (run : (launchSystem around refusals).Run
      (Launch.start capacity.toNat workers.toNat source requests) events launch) :
    launch.Sound around refusals (source.map Feed.entry) workers.toNat := by
  refine run.keeps_state ?_ fun _ _ _ _ _ _ _ sound stepped =>
    sound.step only (launch_moved_of_step stepped)
  have sound : (State.start capacity.toNat workers.toNat source (requests + 1)).Sound
      around _ _ _ := sound_of_run only positive (.refl _)
  rw [← State.start_alongside] at sound
  exact {
    fits := ⟨[], .whole sound nofun⟩
    few := Nat.zero_le _
    granted := nofun
    fresh := fun index worker _ found =>
      List.eq_of_mem_replicate (List.mem_of_getElem? found)
    unread := fun _ => rfl
    knows := trivial }

end LineTally.Scan
