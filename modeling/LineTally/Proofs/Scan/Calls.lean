import LineTally.Proofs.Queue.Consistency
import LineTally.Proofs.Reader
import LineTally.Proofs.Scan.Worker
import LineTally.Proofs.Threads
import LineTally.Scan.Basic

/-!
# Scans as threads in the calls of one queue

A step of a scan is a step of one of its threads, and whatever this thread is about to do, it is
away from the queue or in one of its calls.  So everything that holds of threads in the calls of a
queue holds of scans.
-/

namespace LineTally.Scan

open Queue

/-- Where somebody is after a step who asks for shutdown, and what can be observed of it. -/
def Requester.after : Progress Acting Bool → Requester × List Event
  | .at inside => (.asking inside, [])
  | .returned _ => (.satisfied, [.shutDown])

/-- The steps of a scan, thread by thread. -/
inductive Moved (around : Surroundings) (state : State) : Thread → State → List Event → Prop where
  | reader {pick : Nat} {step : Reader.Step Thread}
      (stepped : state.reader.step state.shared.queue .reader pick = some step) :
      Moved around state .reader
        { state with
          shared := { state.shared with queue := step.queue }
          reader := step.reader }
        (readerEvents state.reader step)
  | worker {pick : Nat} {worker : Worker} {step : Worker.Step} (number : Count)
      (there : state.workers[number.toNat]? = some worker)
      (stepped : worker.step around state.shared number pick = some step) :
      Moved around state (.worker number.toNat)
        { state with
          shared := step.shared
          workers := state.workers.set number.toNat step.worker }
        step.events
  | requester {index : Nat} {inside : Acting} {acted : Acted Thread String}
      (there : state.requesters[index]? = some (.asking inside))
      (stepped : inside.step state.shared.queue (.requester index) = some acted) :
      Moved around state (.requester index)
        { state with
          shared := { state.shared with queue := acted.queue }
          requesters := state.requesters.set index (Requester.after acted.progress).1 }
        (acted.log.map .logged ++ (Requester.after acted.progress).2)
  | coordinator {coordinator : Coordinator} {events : List Event}
      (stepped : state.coordinator.step state = some (coordinator, events)) :
      Moved around state .coordinator { state with coordinator } events

theorem moved_of_step {around : Surroundings} {state next : State} {thread : Thread} {pick : Nat}
    {events : List Event} (stepped : (system around).step thread pick state = some (next, events)) :
    Moved around state thread next events := by
  cases thread with
  | reader =>
      rcases Option.map_eq_some_iff.mp stepped with ⟨step, moved, same⟩
      cases same
      exact .reader moved
  | worker index =>
      rcases Option.bind_eq_some_iff.mp stepped with ⟨worker, there, stepped⟩
      rcases Option.bind_eq_some_iff.mp stepped with ⟨number, counted, stepped⟩
      rcases Option.bind_eq_some_iff.mp stepped with ⟨step, moved, same⟩
      have index_eq : index = number.toNat := by
        unfold Count.ofNat? at counted
        split at counted
        · cases counted
          rfl
        · cases counted
      subst index_eq
      cases same
      exact .worker number there moved
  | requester index =>
      rcases Option.bind_eq_some_iff.mp stepped with ⟨requester, there, stepped⟩
      cases requester with
      | satisfied => cases stepped
      | asking inside =>
          rcases Option.bind_eq_some_iff.mp stepped with ⟨acted, moved, same⟩
          have requested : Moved around state _ _ _ := .requester there moved
          cases progress : acted.progress <;>
          · simp only [progress] at same
            cases same
            simpa [progress, Requester.after] using requested
  | coordinator =>
      rcases Option.map_eq_some_iff.mp stepped with ⟨⟨coordinator, seen⟩, moved, same⟩
      cases same
      exact .coordinator moved

/-- Workers neither come nor go. -/
theorem Moved.length_workers {around : Surroundings} {state next : State} {thread : Thread}
    {events : List Event} (moved : Moved around state thread next events) :
    next.workers.length = state.workers.length := by
  cases moved with
  | worker => exact List.length_set
  | reader | requester | coordinator => rfl

/-! ## The threads at the queue -/

theorem puts_readerEvents (before : Reader) (step : Reader.Step Thread) :
    puts (readerEvents before step) = entered step.transfer := by
  unfold readerEvents
  simp only [puts_append, puts_ofTransfer, puts_logged]
  split <;> split <;> simp [puts]

theorem takes_readerEvents (before : Reader) (step : Reader.Step Thread) :
    takes (readerEvents before step) = (departed step.transfer).map (0, ·) := by
  unfold readerEvents
  simp only [takes_append, takes_ofTransfer, takes_logged]
  split <;> split <;> simp [takes]

/-- Where somebody who asks for shutdown is with regard to the queue. -/
def Requester.call : Requester → Call String
  | .asking inside => inside.call
  | .satisfied => .away

/-- Where the threads of a scan are with regard to its queue. -/
def State.calls (state : State) : Thread → Call String
  | .reader => state.reader.call
  | .worker index => (state.workers[index]?.map Worker.call).getD .away
  | .requester index => (state.requesters[index]?.map Requester.call).getD .away
  | .coordinator => .away

@[simp] theorem calls_reader (state : State) : state.calls .reader = state.reader.call := rfl

@[simp] theorem calls_coordinator (state : State) : state.calls .coordinator = .away := rfl

theorem calls_worker {state : State} {index : Nat} {worker : Worker}
    (there : state.workers[index]? = some worker) :
    state.calls (.worker index) = worker.call := by
  simp [State.calls, there]

theorem calls_requester {state : State} {index : Nat} {requester : Requester}
    (there : state.requesters[index]? = some requester) :
    state.calls (.requester index) = requester.call := by
  simp [State.calls, there]

theorem Requester.call_after (progress : Progress Acting Bool) :
    (Requester.after progress).1.call = progress.call Acting.call := by
  cases progress <;> rfl

/-- One step of the coordinator. -/
inductive Coordinator.Turn (state : State) : Coordinator → Coordinator → List Event → Prop where
  | hears {reading : Reading} (finished : state.reader = .finished (.ok reading)) :
      Turn state .awaitingReader (.awaitingWorkers reading 0) []
  | losesReader {fault : Fault} (finished : state.reader = .finished (.error fault)) :
      Turn state .awaitingReader (.awaitingWorkers lostReading 0)
        [.logged ⟨.error, "Reader thread panicked"⟩]
  | joins {reading : Reading} {following : Nat}
      (there : state.workers[following]? = some .ended) :
      Turn state (.awaitingWorkers reading following) (.awaitingWorkers reading (following + 1)) []
  | joinsDead {reading : Reading} {following : Nat} {fault : Fault}
      (there : state.workers[following]? = some (.died fault)) :
      Turn state (.awaitingWorkers reading following) (.awaitingWorkers reading (following + 1))
        [.logged ⟨.error, s!"Worker {following} thread panicked"⟩]
  | hasJoinedAll {reading : Reading} {following : Nat}
      (none : state.workers[following]? = Option.none) :
      Turn state (.awaitingWorkers reading following) (.announcing reading) []
  | announces {reading : Reading} :
      Turn state (.announcing reading) (.totalling reading)
        (reading.error.map .sourceFailed).toList
  | findsSum {reading : Reading} {tally : Tally}
      (published : state.shared.published = some tally) :
      Turn state (.totalling reading) (.closing reading tally) []
  | sums {reading : Reading} {tally : Tally} (summed : state.shared.slots.aggregate = .ok tally) :
      Turn state (.totalling reading) (.closing reading tally) []
  | sumFaults {reading : Reading} {fault : Fault}
      (summed : state.shared.slots.aggregate = .error fault) :
      Turn state (.totalling reading) (.died fault) []
  | closes {reading : Reading} {tally : Tally} :
      Turn state (.closing reading tally)
        (.returned {
          tally
          linesRead := reading.linesRead
          produced := reading.produced
          cancelled := state.shared.queue.cancelled
          sourceError := reading.error }) []

theorem Coordinator.turn {state : State} {before after : Coordinator} {events : List Event}
    (stepped : before.step state = some (after, events)) : Turn state before after events := by
  cases before with
  | awaitingReader =>
      simp only [Coordinator.step] at stepped
      split at stepped
      next result finished =>
        cases result with
        | ok reading =>
            cases stepped
            exact .hears finished
        | error fault =>
            cases stepped
            exact .losesReader finished
      next => cases stepped
  | awaitingWorkers reading following =>
      simp only [Coordinator.step] at stepped
      split at stepped
      next none =>
        cases stepped
        exact .hasJoinedAll none
      next there =>
        cases stepped
        exact .joins there
      next there =>
        cases stepped
        exact .joinsDead there
      next => cases stepped
  | announcing reading =>
      cases stepped
      exact .announces
  | totalling reading =>
      simp only [Coordinator.step] at stepped
      split at stepped
      next published =>
        cases stepped
        exact .findsSum published
      next =>
        split at stepped
        next summed =>
          cases stepped
          exact .sums summed
        next summed =>
          cases stepped
          exact .sumFaults summed
  | closing reading tally =>
      cases stepped
      exact .closes
  | returned summary => cases stepped
  | died fault => cases stepped

/-- The coordinator neither puts lines nor takes any. -/
theorem Coordinator.Turn.silent {state : State} {before after : Coordinator}
    {events : List Event} (turn : Turn state before after events) :
    puts events = [] ∧ takes events = [] := by
  cases turn with
  | @announces reading => cases reading.error <;> exact ⟨rfl, rfl⟩
  | _ => exact ⟨rfl, rfl⟩

/-- Every step of a scan is a step of a thread at the queue. -/
theorem Moved.moves {around : Surroundings} {state next : State} {thread : Thread}
    {events : List Event} (moved : Moved around state thread next events) :
    ∃ transfer, Moves thread state.shared.queue state.calls transfer next.shared.queue
        next.calls ∧
      puts events = entered transfer ∧
      (takes events).map Prod.snd = departed transfer := by
  cases moved with
  | @reader pick step stepped =>
      refine ⟨step.transfer, ⟨Reader.advances stepped, ?_⟩, puts_readerEvents .., ?_⟩
      · intro other different
        cases other with
        | reader => exact absurd rfl different
        | worker | requester | coordinator => rfl
      · simp [takes_readerEvents, Function.comp_def]
  | @worker pick worker step number there stepped =>
      rcases (Worker.turn stepped).advances with ⟨transfer, advances, put, took⟩
      rcases List.getElem?_eq_some_iff.mp there with ⟨inside, -⟩
      refine ⟨transfer, ⟨?_, ?_⟩, put, by simp [took, Function.comp_def]⟩
      · rw [calls_worker there]
        simpa [State.calls, inside] using advances
      · intro other different
        cases other with
        | worker index =>
            have elsewhere : number.toNat ≠ index := by
              rintro rfl
              exact different rfl
            simp [State.calls, List.getElem?_set_ne elsewhere]
        | reader | requester | coordinator => rfl
  | @requester index inside acted there stepped =>
      rcases List.getElem?_eq_some_iff.mp there with ⟨within, -⟩
      have turn := Acting.turn stepped
      rw [← Requester.call_after] at turn
      have advances : Advances (.requester index) state.shared.queue
          (Requester.asking inside).call none acted.queue _ := turn.advances
      refine ⟨none, ⟨?_, ?_⟩, ?_, ?_⟩
      · rw [calls_requester there]
        simpa [State.calls, within] using advances
      · intro other different
        cases other with
        | requester place =>
            have elsewhere : index ≠ place := by
              rintro rfl
              exact different rfl
            simp [State.calls, List.getElem?_set_ne elsewhere]
        | reader | worker | coordinator => rfl
      · cases acted.progress <;> simp [Requester.after, puts, entered]
      · cases acted.progress <;> simp [Requester.after, takes, departed]
  | @coordinator coordinator events stepped =>
      refine ⟨none, ⟨Call.Idle.away.advances .away, ?_⟩, ?_, ?_⟩
      · intro other _
        cases other <;> rfl
      · rw [(Coordinator.turn stepped).silent.1]
        rfl
      · rw [(Coordinator.turn stepped).silent.2]
        rfl

theorem calls_start_idle (capacity workers : Nat) (source : List Feed) (requests : Nat)
    (thread : Thread) : ((State.start capacity workers source requests).calls thread).Idle := by
  cases thread with
  | reader | coordinator => exact .away
  | worker index =>
      simp only [State.calls, State.start, List.getElem?_replicate]
      split
      · exact .pop
      · exact .away
  | requester index =>
      simp only [State.calls, State.start, List.getElem?_replicate]
      split
      · exact .cancel
      · exact .away

end LineTally.Scan
