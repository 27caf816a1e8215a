import LineTally.Proofs.Scan.Asking
import LineTally.Proofs.Scan.Counting
import LineTally.Proofs.Scan.Progress
import LineTally.Proofs.Scan.Weight

/-!
# What the sink is told, and of what

The first worker tells the sink of the sum when all workers have recorded what they came to, and the
coordinator tells it of a failure of the source when all workers have ended.  So what the sink has
been told is to be seen from where these two are, and what is in the slots is what the workers came
to.  Nothing else is ever told, and the summary says the same again.
-/

namespace LineTally

open Scan

/-- The tally gathers what so many workers came to, each with the one tally with which it stopped. -/
structure Tally.Gathers (workers : Nat) (events : List Event) (tally : Tally) : Prop where
  number : tally.workers.length = workers
  entries : ∀ (index : Nat) (entry : WorkerTally), tally.workers[index]? = some entry →
    entry.index.toNat = index ∧ stops index events = [entry]
  total : tally.total.toNat = (tally.workers.map (·.matched.toNat)).sum

/-- The sink was told of the sum, then of the failure of the source if there was one, and of nothing
else, and the summary says the same.  A source that did not fail is said to have failed only when it
gave more lines than can be counted. -/
structure Summary.Aggregated (workers : Nat) (source : List Entry) (events : List Event)
    (summary : Summary) : Prop where
  handed : sinkCalls events =
    .reported aggregator summary.tally :: (summary.sourceError.map .sourceFailed).toList
  gathers : summary.tally.Gathers workers events
  failure : summary.sourceError = (source.take (asks events)).findSome? Entry.failure? ∨
    Count.limit ≤ (yielded source).length ∧ summary.sourceError = lostReading.error

namespace Scan

open Queue

/-! ## What the sink has been told -/

/-- The worker is past its report. -/
def Worker.hasReported : Worker → Bool
  | .publishing _ | .ended | .died _ => true
  | _ => false

/-- What the first worker has told the sink. -/
def State.reports (state : State) : List Event :=
  if state.workers[aggregator]?.any Worker.hasReported then
    match state.shared.slots.aggregate with
    | .ok tally => [.reported aggregator tally]
    | .error _ => []
  else []

/-- What the coordinator has told the sink. -/
def Coordinator.told : Coordinator → List Event
  | .totalling reading | .closing reading _ => (reading.error.map .sourceFailed).toList
  | .returned summary => (summary.sourceError.map .sourceFailed).toList
  | .awaitingReader | .awaitingWorkers .. | .announcing _ | .died _ => []

/-- The tallies with which a worker has stopped, from where it is and what is in its slot. -/
def Worker.stopped (slot : Option WorkerTally) : Worker → List WorkerTally
  | .consuming _ => []
  | .recording tally => [tally]
  | _ => slot.toList

theorem Worker.stopped_of_hasRecorded {slot : Option WorkerTally} {worker : Worker}
    (recorded : worker.hasRecorded = true) : worker.stopped slot = slot.toList := by
  cases worker <;> first | rfl | cases recorded

theorem Worker.hasReported_of_isOver {worker : Worker} (atEnd : worker.isOver = true) :
    worker.hasReported = true := by
  cases worker <;> first | rfl | cases atEnd

theorem Worker.isPast_of_hasReported {worker : Worker} (reported : worker.hasReported = true) :
    worker.isPast = true := by
  cases worker <;> first | rfl | cases reported

theorem State.reports_eq_nil {state : State} {worker : Worker}
    (there : state.workers[aggregator]? = some worker) (early : worker.hasReported = false) :
    state.reports = [] := by
  simp [State.reports, there, early]

theorem State.reports_eq {state : State} {worker : Worker} {tally : Tally}
    (there : state.workers[aggregator]? = some worker) (late : worker.hasReported = true)
    (added : state.shared.slots.aggregate = .ok tally) :
    state.reports = [.reported aggregator tally] := by
  simp [State.reports, there, late, added]

/-- The coordinator has told the sink what it was about to tell it. -/
theorem Coordinator.Turn.told {state : State} {before after : Coordinator} {events : List Event}
    (turn : Turn state before after events) (alive : ∀ fault, after ≠ .died fault) :
    after.told = before.told ++ before.telling := by
  cases turn with
  | findsSum | sums | closes => exact (List.append_nil _).symm
  | sumFaults => exact absurd rfl (alive _)
  | _ => rfl

/-- The coordinator tells the sink nothing as long as a worker has not ended. -/
theorem Coordinator.Knows.told_eq_nil {state : State} {coordinator : Coordinator}
    {worker : Worker} (knows : coordinator.Knows state) (member : worker ∈ state.workers)
    (running : worker.isOver = false) : coordinator.told = [] := by
  have some_running := not_all_over member running
  cases coordinator with
  | totalling => exact absurd knows.2 some_running
  | closing | returned => exact absurd knows.2.1 some_running
  | awaitingReader | awaitingWorkers | announcing | died => rfl

/-- What is to be observed of a scan is to be seen from its state. -/
structure State.Told (source : List Entry) (events : List Event) (state : State) : Prop where
  answered : state.reader.Answered source (asks events)
  calls : sinkCalls events = state.reports ++ state.coordinator.told
  stops : ∀ (index : Nat) (worker : Worker), state.workers[index]? = some worker →
    stops index events = worker.stopped (state.shared.slots.get? index)

section Turn

variable {around : Surroundings} {source : List Entry} {workers : Nat} {state : State}
variable {shared : Shared} {number : Count} {worker after : Worker} {before events : List Event}

/-- A step of a worker changes what the sink has been told only if it is its report. -/
theorem State.Sound.reports_of_same (sound : state.Sound around source workers before)
    (there : state.workers[number.toNat]? = some worker)
    (turn : Worker.Turn around state.shared number worker shared after events)
    (same : number.toNat = aggregator → after.hasReported = worker.hasReported) :
    ({ state with shared, workers := state.workers.set number.toNat after } : State).reports =
      state.reports := by
  have inside := (List.getElem?_eq_some_iff.mp there).1
  have first : (state.workers.set number.toNat after)[aggregator]?.any Worker.hasReported =
      state.workers[aggregator]?.any Worker.hasReported := by
    by_cases mine : number.toNat = aggregator
    · rw [← mine, List.getElem?_set_self inside, there, Option.any_some, Option.any_some,
        same mine]
    · rw [List.getElem?_set_ne mine]
  simp only [State.reports, first]
  by_cases reported : state.workers[aggregator]?.any Worker.hasReported = true
  · have complete : state.shared.rendezvous.complete = true := by
      cases found : state.workers[aggregator]? with
      | none => simp [found] at reported
      | some reporter =>
          rw [found, Option.any_some] at reported
          exact sound.gathered.past _ _ found (Worker.isPast_of_hasReported reported)
    rw [(sound.gathered.after_complete there turn complete).2]
  · rw [if_neg reported, if_neg reported]

/-- The sink is told what the worker tells it, in the order of the steps. -/
theorem State.Sound.reports_turn (sound : state.Sound around source workers before)
    (there : state.workers[number.toNat]? = some worker)
    (turn : Worker.Turn around state.shared number worker shared after events) :
    ({ state with shared, workers := state.workers.set number.toNat after } : State).reports =
      state.reports ++ worker.telling number.toNat := by
  have quiet (silent : worker.telling number.toNat = [])
      (same : number.toNat = aggregator → after.hasReported = worker.hasReported) :
      ({ state with shared, workers := state.workers.set number.toNat after } : State).reports =
        state.reports ++ worker.telling number.toNat := by
    rw [silent, List.append_nil]
    exact sound.reports_of_same there turn same
  have inside := (List.getElem?_eq_some_iff.mp there).1
  have few := sound.ranked.few
  cases turn with
  | @reports tally | @sinkFaults tally =>
      have first : number.toNat = aggregator := sound.summed.placed _ _ there
      have added := sound.summed.told _ tally (Or.inl there)
      have early : state.reports = [] := State.reports_eq_nil (first ▸ there) rfl
      rw [early, List.nil_append]
      rw [first] at inside ⊢
      exact State.reports_eq (List.getElem?_set_self inside) rfl added
  | comesLate arrived => exact absurd arrived (sound.gathered.arrive_ne_error few there _ _)
  | sumFaults summed =>
      have complete := sound.gathered.past _ _ there rfl
      exact absurd summed (sound.manned.aggregate_ne_error sound.gathered
        sound.queued.length_takes_lt complete _)
  | meets arrived =>
      cases sound.gathered.arrival_eq_complete few there arrived
      exact quiet rfl fun first => by simp [Worker.afterRendezvous, first, Worker.hasReported]
  | resumes resumed =>
      cases (sound.gathered.resume_eq_some there resumed).2.2
      exact quiet rfl fun first => by simp [Worker.afterRendezvous, first, Worker.hasReported]
  | _ => exact quiet rfl fun _ => rfl

/-- A worker stops with the tally that it then records in its own slot. -/
theorem State.Told.stops_turn (told : state.Told source before)
    (sound : state.Sound around source workers before)
    (there : state.workers[number.toNat]? = some worker)
    (turn : Worker.Turn around state.shared number worker shared after events) (index : Nat)
    (other : Worker) (found : (state.workers.set number.toNat after)[index]? = some other) :
    Scan.stops index before ++ (if index = number.toNat then worker.stopping else []) =
      other.stopped (shared.slots.get? index) := by
  have own := told.stops _ _ there
  have elsewhere (others : ∀ index, index ≠ number.toNat →
        shared.slots.get? index = state.shared.slots.get? index)
      (mine : Scan.stops number.toNat before ++ worker.stopping =
        after.stopped (shared.slots.get? number.toNat)) :
      Scan.stops index before ++ (if index = number.toNat then worker.stopping else []) =
        other.stopped (shared.slots.get? index) := by
    revert found
    refine forall_of_set (fun index other => Scan.stops index before ++
      (if index = number.toNat then worker.stopping else []) =
        other.stopped (shared.slots.get? index)) ?_ ?_ index other
    · simpa using mine
    · intro index other different found
      rw [if_neg different, List.append_nil, others index different]
      exact told.stops index other found
  rcases turn.cases_slots with ⟨pick, consumer, step, rfl, rfl, stepped, slots, -⟩ |
    ⟨tally, rfl, rfl, slots, -⟩ | ⟨tally, rfl, rfl, slots, -⟩ | ⟨earlier, later, slots, -⟩
  · refine elsewhere (fun _ _ => by rw [slots]) ?_
    rw [own, Worker.stopping_of_step stepped]
    rfl
  · refine elsewhere (fun _ _ => by rw [slots]) ?_
    rw [own]
    rfl
  · rcases sound.manned.record there with ⟨-, filled, others⟩
    refine elsewhere (fun index different => by rw [slots, others index different]) ?_
    rw [own, slots, filled]
    rfl
  · refine elsewhere (fun _ _ => by rw [slots]) ?_
    have silent : worker.stopping = [] := by
      cases worker <;> first | rfl | cases earlier
    rw [own, silent, List.append_nil, slots, Worker.stopped_of_hasRecorded earlier,
      Worker.stopped_of_hasRecorded later]

end Turn

namespace State.Told

variable {around : Surroundings} {source : List Entry} {workers : Nat} {state next : State}
variable {thread : Thread} {before events : List Event}

theorem start (capacity workers : Nat) (source : List Feed) (requests : Nat) :
    (State.start capacity workers source requests).Told (source.map Feed.entry) [] where
  answered := Reader.answered_start _
  calls := by
    cases workers <;> rfl
  stops index worker there := by
    rw [List.eq_of_mem_replicate (List.mem_of_getElem? there)]
    rfl

/-- What has been observed is to be seen from the state after a step as well, if what is observed of
the step is. -/
theorem extend {asked : Nat} {calls : List Event} {stopped : Nat → List WorkerTally}
    (observed : Observed events asked calls stopped)
    (answered : next.reader.Answered source (asks before + asked))
    (called : sinkCalls before ++ calls = next.reports ++ next.coordinator.told)
    (ended : ∀ (index : Nat) (worker : Worker), next.workers[index]? = some worker →
      Scan.stops index before ++ stopped index = worker.stopped (next.shared.slots.get? index)) :
    next.Told source (before ++ events) where
  answered := by rwa [asks_append, observed.asks]
  calls := by rwa [sinkCalls_append, observed.sinkCalls]
  stops index worker there := by
    rw [stops_append, observed.stops]
    exact ended index worker there

/-- Every step adds to what has been observed what its thread does. -/
theorem step (told : state.Told source before) (sound : state.Sound around source workers before)
    (after : next.Sound around source workers (before ++ events))
    (moved : Moved around state thread next events) : next.Told source (before ++ events) := by
  have silent : sinkCalls before ++ [] = state.reports ++ state.coordinator.told :=
    (List.append_nil _).trans told.calls
  have unstopped (index : Nat) (worker : Worker) (there : state.workers[index]? = some worker) :
      Scan.stops index before ++ [] = worker.stopped (state.shared.slots.get? index) :=
    (List.append_nil _).trans (told.stops index worker there)
  cases moved with
  | @reader _ step stepped =>
      have ground := (sound.queued.consistent.fits .reader).ground
      exact extend (readerEvents_observed state.reader step) (told.answered.step stepped ground)
        silent unstopped
  | @worker _ worker step number there stepped =>
      have turn := Worker.turn stepped
      refine extend turn.observed told.answered ?_ (told.stops_turn sound there turn)
      have quiet := sound.summed.coordinator.told_eq_nil (List.mem_of_getElem? there)
        turn.isOver_eq_false
      have reports := sound.reports_turn there turn
      rw [told.calls]
      simp only [quiet, List.append_nil]
      exact reports.symm
  | @requester index inside acted there stepped =>
      have plain : Plain (acted.log.map .logged ++ (Requester.after acted.progress).2) := by
        refine (Plain.logged _).append ?_
        cases acted.progress with
        | «at» => exact .nil
        | returned => exact .singleton rfl
      exact extend plain.observed told.answered silent unstopped
  | @coordinator coordinator _ stepped =>
      have turn := Coordinator.turn stepped
      refine extend turn.observed told.answered ?_ unstopped
      have alive : ∀ fault, coordinator ≠ .died fault := by
        rintro fault rfl
        exact after.summed.coordinator
      rw [told.calls, List.append_assoc, ← turn.told alive]
      rfl

end State.Told

theorem told_of_run {around : Surroundings} (only : around.ShutsDown) {capacity workers : Count}
    (positive : 0 < capacity.toNat) {source : List Feed} {requests : Nat} {events : List Event}
    {last : State}
    (run : (system around).Run (State.start capacity.toNat workers.toNat source requests)
      events last) :
    last.Told (source.map Feed.entry) events := by
  induction run with
  | refl => exact .start _ _ _ _
  | tail thread pick before stepped ih =>
      exact ih.step (sound_of_run only positive before)
        (sound_of_run only positive (before.tail thread pick stepped)) (moved_of_step stepped)

/-! ## What comes of it -/

section Sum

variable {around : Surroundings} {source : List Entry} {workers : Nat} {events : List Event}
variable {state last : State} {tally : Tally} {summary : Summary}

/-- Behind the rendezvous the slots hold what the workers came to, and their sum gathers it. -/
theorem State.Told.gathers (told : state.Told source events)
    (sound : state.Sound around source workers events)
    (complete : state.shared.rendezvous.complete = true)
    (added : state.shared.slots.aggregate = .ok tally) :
    state.shared.slots.entries = tally.workers.map some ∧ tally.Gathers workers events := by
  rcases sound.manned.aggregate_eq_ok sound.gathered sound.queued.length_takes_lt complete with
    ⟨same, added', entries, sums⟩
  rw [added] at added'
  cases added'
  refine ⟨entries, sums.length.trans sound.number, ?_, sums.total⟩
  intro index entry there
  constructor
  · rcases sums.tallied.each index entry there with ⟨number, rfl, of⟩
    rw [of.index_eq]
  · have inside : index < state.workers.length :=
      sums.length ▸ (List.getElem?_eq_some_iff.mp there).1
    have filled : state.shared.slots.get? index = some entry := by
      simp [Slots.get?, entries, there]
    have arrived := sound.gathered.hasArrived complete (List.getElem_mem inside)
    rw [told.stops index _ (List.getElem?_eq_getElem inside), filled,
      Worker.stopped_of_hasRecorded (Worker.hasRecorded_of_hasArrived arrived)]
    rfl

/-- Only a worker that is about to report hands a sum to the sink. -/
theorem Moved.reporting {thread : Thread} {next : State} {reporter : Nat}
    (moved : Moved around state thread next events) (reported : .reported reporter tally ∈ events) :
    thread = .worker reporter ∧ state.workers[reporter]? = some (.reporting tally) := by
  have told : .reported reporter tally ∈ sinkCalls events := List.mem_filter.mpr ⟨reported, rfl⟩
  cases moved with
  | reader stepped =>
      rw [(readerEvents_observed _ _).sinkCalls] at told
      cases told
  | @worker _ worker _ number there stepped =>
      rw [(Worker.turn stepped).observed.sinkCalls] at told
      cases worker with
      | reporting sum =>
          cases List.mem_singleton.mp told
          exact ⟨rfl, there⟩
      | _ => cases told
  | @requester _ _ acted there stepped =>
      rcases List.mem_append.mp reported with log | granted
      · cases Plain.logged _ _ log
      · cases progress : acted.progress with
        | «at» => simp [progress, Requester.after] at granted
        | returned => simp [progress, Requester.after] at granted
  | coordinator stepped =>
      rw [(Coordinator.turn stepped).observed.sinkCalls] at told
      generalize state.coordinator = coordinator at told
      cases coordinator with
      | announcing reading =>
          cases failed : reading.error <;> simp [Coordinator.telling, failed] at told
      | _ => cases told

/-- The first worker hands the sum to the sink when nobody has told it anything, and when all slots
are filled. -/
theorem State.Told.reporting (told : state.Told source events)
    (sound : state.Sound around source workers events) {reporter : Nat}
    (there : state.workers[reporter]? = some (.reporting tally)) :
    reporter = aggregator ∧ sinkCalls events = [] ∧
      state.shared.slots.entries = tally.workers.map some ∧ tally.Gathers workers events := by
  have first : reporter = aggregator := sound.summed.placed _ _ there
  have complete := sound.gathered.past _ _ there rfl
  have added := sound.summed.told _ tally (Or.inl there)
  have silent := sound.summed.coordinator.told_eq_nil (List.mem_of_getElem? there) rfl
  have early : state.reports = [] := State.reports_eq_nil (first ▸ there) rfl
  refine ⟨first, ?_, told.gathers sound complete added⟩
  rw [told.calls, early, silent, List.append_nil]

/-- When a scan is over, its sink has been told what the summary says. -/
theorem State.Told.aggregated (told : last.Told source events)
    (sound : last.Sound around source workers events) (some : 0 < workers)
    (returned : last.summary? = Option.some summary) : summary.Aggregated workers source events := by
  have stopped := coordinator_of_summary returned
  rcases knows_of_summary sound returned with
    ⟨⟨result, finished, -, -, failure⟩, atEnd, added, -⟩
  have inside : aggregator < last.workers.length := by
    rwa [sound.number]
  have reporter := atEnd _ (List.getElem_mem inside)
  have reports := State.reports_eq (List.getElem?_eq_getElem inside)
    (Worker.hasReported_of_isOver reporter) added
  refine ⟨?_, (told.gathers sound (sound.gathered.complete_of_over atEnd) added).2, ?_⟩
  · rw [told.calls, reports, stopped]
    rfl
  · have answered := told.answered
    have account := sound.queued.reader
    rw [finished] at answered account
    rcases answered with rfl | relayed
    · right
      generalize puts events = lines at account
      cases account with
      | overflowed lines full =>
          refine ⟨?_, failure⟩
          rw [lines, List.length_append, List.length_cons]
          omega
    · left
      rw [failure, relayed]

end Sum

/-- Every scan hands the sum to its sink exactly once, whatever its test does and whether its sink
takes the sum or gives up on it, whoever asks for shutdown, and in whatever order its threads take
their steps.  The first worker does so when all workers have recorded what they came to; the summary
holds the same sum; and the sink is told of a failure of the source after that, if the source
answered with one. -/
theorem sum_is_handed_over_once {capacity workers : Count} (positive : 0 < capacity.toNat)
    (some : 0 < workers.toNat) (test : Test) (sink : Tally → Option Fault) (source : List Feed)
    (requests : Nat) :
    (∀ (number : Nat) (last : State),
      (system (.ofTest test sink)).Steps
        (State.start capacity.toNat workers.toNat source requests) number last →
      number ≤ (State.start capacity.toNat workers.toNat source requests).budget
        (.ofTest test sink)) ∧
    ∀ (events : List Event) (last : State),
      (system (.ofTest test sink)).Run
        (State.start capacity.toNat workers.toNat source requests) events last →
      ((∃ (moving : Thread) (pick : Nat) (next : State) (seen : List Event),
          (system (.ofTest test sink)).step moving pick last = Option.some (next, seen)) ∨
        ∃ summary, last.summary? = Option.some summary) ∧
      (∀ (moving : Thread) (pick : Nat) (next : State) (seen : List Event) (reporter : Nat)
          (tally : Tally),
        (system (.ofTest test sink)).step moving pick last = Option.some (next, seen) →
        .reported reporter tally ∈ seen →
        moving = .worker reporter ∧ reporter = aggregator ∧ sinkCalls events = [] ∧
          last.shared.slots.entries = tally.workers.map Option.some ∧
          tally.Gathers workers.toNat events) ∧
      ∀ summary, last.summary? = Option.some summary →
        summary.Aggregated workers.toNat (source.map Feed.entry) events := by
  have only := Surroundings.ofTest_shutsDown test sink
  refine ⟨fun number last steps => length_le_budget only positive steps, ?_⟩
  intro events last run
  have sound := sound_of_run only positive run
  have told := told_of_run only positive run
  refine ⟨?_, ?_, fun summary returned => told.aggregated sound some returned⟩
  · rcases over_or_step_of_run only positive some run with atEnd | moves
    · exact Or.inr atEnd.coordinator
    · exact Or.inl moves
  · intro moving pick next seen reporter tally stepped reported
    rcases (moved_of_step stepped).reporting reported with ⟨mover, there⟩
    exact ⟨mover, told.reporting sound there⟩

/-- Two workers, one of which gives up, a source that fails behind its lines, and a sink that gives
up on the sum: the coordinator sums up again. -/
theorem sum_is_handed_over_once_of_faulting_sink :
    let two : Count := ⟨2, by decide⟩
    let test : Test := fun line =>
      { answer := if line = "b" then .error "no luck" else .ok true }
    let sink : Tally → Option Fault := fun _ => some (.raised "sink gave up")
    let source : List Feed := [.line "a", .line "b", .line "c", .failure "gone"]
    let first : State := .start (1 : Count).toNat two.toNat source 0
    let run := (system (.ofTest test sink)).settle State.order 300 first
    0 < (1 : Count).toNat ∧ 0 < two.toNat ∧
      ∃ summary, run.1.summary? = some summary ∧ summary.sourceError = some "gone" ∧
        summary.tally.failedWorkers = 1 ∧
        summary.Aggregated two.toNat (source.map Feed.entry) run.2 := by
  intro two test sink source first run
  have returned : (run.1.summary?.map fun summary =>
      (summary.sourceError, summary.tally.failedWorkers)) = some (some "gone", 1) := by
    decide +kernel
  rcases Option.map_eq_some_iff.mp returned with ⟨summary, there, said⟩
  rcases Prod.mk.inj said with ⟨failure, gaveUp⟩
  have aggregated := ((sum_is_handed_over_once (by decide) (by decide) test sink source 0).2 _ run.1
    (System.run_settle _ _ 300 first)).2.2 summary there
  exact ⟨by decide, by decide, summary, there, failure, gaveUp, aggregated⟩

end Scan

end LineTally
