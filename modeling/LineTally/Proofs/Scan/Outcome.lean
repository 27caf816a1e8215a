import LineTally.Proofs.Scan.Lines

/-!
# What a scan comes to

When all workers are past the rendezvous, every slot is filled, and the sum of the slots is that of
all lines that were taken.  It cannot fault, since there are not more lines than can be counted.
This sum is what is reported, published and returned.
-/

namespace LineTally.Scan

open Queue

/-- Who takes a step is not over. -/
theorem Worker.Turn.isOver_eq_false {around : Surroundings} {shared next : Shared}
    {number : Count} {worker after : Worker} {events : List Event}
    (turn : Worker.Turn around shared number worker next after events) :
    worker.isOver = false := by
  cases turn <;> rfl

theorem not_all_over {workers : List Worker} {worker : Worker} (member : worker ∈ workers)
    (running : worker.isOver = false) : ¬ ∀ worker ∈ workers, worker.isOver = true := by
  intro all
  rw [all worker member] at running
  cases running

/-- What is known of the source from the end of its thread. -/
def readingOf : Except Fault Reading → Reading
  | .ok reading => reading
  | .error _ => lostReading

/-- What the coordinator knows. -/
def Coordinator.Knows (state : State) : Coordinator → Prop
  | .awaitingReader => True
  | .awaitingWorkers reading next =>
      (∃ result, state.reader = .finished result ∧ reading = readingOf result) ∧
        ∀ (index : Nat) (worker : Worker), index < next → state.workers[index]? = some worker →
          worker.isOver = true
  | .announcing reading | .totalling reading =>
      (∃ result, state.reader = .finished result ∧ reading = readingOf result) ∧
        ∀ worker ∈ state.workers, worker.isOver = true
  | .closing reading tally =>
      (∃ result, state.reader = .finished result ∧ reading = readingOf result) ∧
        (∀ worker ∈ state.workers, worker.isOver = true) ∧
        state.shared.slots.aggregate = .ok tally
  | .returned summary =>
      (∃ result, state.reader = .finished result ∧
        summary.linesRead = (readingOf result).linesRead ∧
        summary.produced = (readingOf result).produced ∧
        summary.sourceError = (readingOf result).error) ∧
        (∀ worker ∈ state.workers, worker.isOver = true) ∧
        state.shared.slots.aggregate = .ok summary.tally ∧
        (summary.cancelled = true → state.shared.queue.cancelled = true)
  | .died _ => False

/-- What is reported, published and returned is the sum of the slots. -/
structure State.Summed (around : Surroundings) (state : State) : Prop where
  placed : ∀ (index : Nat) (worker : Worker), state.workers[index]? = some worker →
    worker.Placed around index
  told : ∀ (index : Nat) (tally : Tally),
    state.workers[index]? = some (.reporting tally) ∨
      state.workers[index]? = some (.publishing tally) →
    state.shared.slots.aggregate = .ok tally
  published : ∀ tally, state.shared.published = some tally →
    state.shared.rendezvous.complete = true ∧ state.shared.slots.aggregate = .ok tally
  coordinator : state.coordinator.Knows state

theorem eq_map_some_of_isSome {κ : Type} {slots : List (Option κ)}
    (filled : ∀ slot ∈ slots, slot.isSome = true) : slots = (slots.filterMap id).map some := by
  induction slots with
  | nil => rfl
  | cons slot rest ih =>
      cases slot with
      | none => cases filled none (by simp)
      | some entry =>
          have later := ih fun other member => filled other (List.mem_cons_of_mem _ member)
          simpa using later

/-- All workers have recorded their tallies when the rendezvous is complete. -/
theorem State.Gathered.hasArrived {state : State} (gathered : state.Gathered)
    (complete : state.shared.rendezvous.complete = true) {worker : Worker}
    (member : worker ∈ state.workers) : worker.hasArrived = true :=
  List.countP_eq_length.mp (gathered.complete.mp complete) worker member

/-- Who has arrived has recorded its tally before. -/
theorem Worker.hasRecorded_of_hasArrived {worker : Worker} (arrived : worker.hasArrived = true) :
    worker.hasRecorded = true := by
  cases worker <;> first | rfl | cases arrived

/-- When all workers are over, the rendezvous is complete. -/
theorem State.Gathered.complete_of_over {state : State} (gathered : state.Gathered)
    (finished : ∀ worker ∈ state.workers, worker.isOver = true) :
    state.shared.rendezvous.complete = true := by
  rw [gathered.complete, List.countP_eq_length]
  intro worker member
  have atEnd := finished worker member
  cases worker <;> first | rfl | cases atEnd

/-- When the rendezvous is complete, each slot holds what its worker came to. -/
theorem State.Manned.entries_eq {around : Surroundings} {state : State}
    {taken : List (Nat × String)} (manned : state.Manned around taken)
    (gathered : state.Gathered) (complete : state.shared.rendezvous.complete = true) :
    ∃ tallies, state.shared.slots.entries = tallies.map some ∧
      tallies.length = state.workers.length ∧ Tallied around.predicate taken tallies := by
  have slot {index : Nat} (inside : index < state.workers.length) :
      ∃ (number : Count) (tally : WorkerTally), number.toNat = index ∧
        state.shared.slots.get? index = some tally ∧
        tally.Of around.predicate number (ofThread index taken) := by
    rcases manned.each index _ (List.getElem?_eq_getElem inside) with ⟨number, same, account⟩
    have arrived := gathered.hasArrived complete (List.getElem_mem inside)
    have recorded := Worker.hasRecorded_of_hasArrived arrived
    rcases (Worker.account_iff_of_hasRecorded recorded).mp account with ⟨tally, filled, of⟩
    exact ⟨number, tally, same, filled, of⟩
  have filled : ∀ slot ∈ state.shared.slots.entries, slot.isSome = true := by
    intro entry member
    rcases List.getElem?_of_mem member with ⟨index, there⟩
    have inside := (List.getElem?_eq_some_iff.mp there).1
    rw [Slots.entries_getElem? inside] at there
    rcases slot (manned.slots ▸ inside) with ⟨number, tally, -, some, -⟩
    rw [some] at there
    cases there
    rfl
  have entries := eq_map_some_of_isSome filled
  generalize state.shared.slots.entries.filterMap id = tallies at entries
  have length : tallies.length = state.workers.length := by
    rw [← manned.slots, entries, List.length_map]
  refine ⟨tallies, entries, length, fun entry member => length ▸ manned.owners entry member, ?_⟩
  intro index tally there
  have inside := (List.getElem?_eq_some_iff.mp there).1
  rcases slot (length ▸ inside) with ⟨number, other, same, some, of⟩
  refine ⟨number, same, ?_⟩
  simp only [Slots.get?, entries, List.getElem?_map, there, Option.map_some, Option.join_some,
    Option.some.injEq] at some
  exact some ▸ of

/-- When the rendezvous is complete, the slots are summed up without a fault. -/
theorem State.Manned.aggregate_eq_ok {around : Surroundings} {state : State}
    {taken : List (Nat × String)} (manned : state.Manned around taken)
    (gathered : state.Gathered) (fits : taken.length < Count.limit)
    (complete : state.shared.rendezvous.complete = true) :
    ∃ tally, state.shared.slots.aggregate = .ok tally ∧
      state.shared.slots.entries = tally.workers.map some ∧
      Tally.Sums around.predicate taken state.workers.length tally := by
  rcases manned.entries_eq gathered complete with ⟨tallies, entries, length, tallied⟩
  rcases tallied.ofWorkers_eq_ok fits with ⟨tally, sum, rfl, total⟩
  exact ⟨tally, (Slots.aggregate_of_filled entries).trans sum, entries, tallied, length, total⟩

theorem State.Manned.aggregate_ne_error {around : Surroundings} {state : State}
    {taken : List (Nat × String)} (manned : state.Manned around taken)
    (gathered : state.Gathered) (fits : taken.length < Count.limit)
    (complete : state.shared.rendezvous.complete = true) (fault : Fault) :
    state.shared.slots.aggregate ≠ .error fault := by
  rcases manned.aggregate_eq_ok gathered fits complete with ⟨tally, added, -⟩
  simp [added]

/-- Nothing is recorded, and nobody arrives, behind a complete rendezvous. -/
theorem State.Gathered.after_complete {around : Surroundings} {state : State} {shared : Shared}
    {number : Count} {worker after : Worker} {events : List Event} (gathered : state.Gathered)
    (there : state.workers[number.toNat]? = some worker)
    (turn : Worker.Turn around state.shared number worker shared after events)
    (complete : state.shared.rendezvous.complete = true) :
    shared.rendezvous = state.shared.rendezvous ∧ shared.slots = state.shared.slots := by
  have arrived := gathered.hasArrived complete (List.mem_of_getElem? there)
  cases turn with
  | resumes resumed | waitsAgain resumed =>
      exact ⟨(gathered.resume_eq_some there resumed).2.1, rfl⟩
  | sums | sumFaults | reports | sinkFaults | publishes | publishesAgain => exact ⟨rfl, rfl⟩
  | _ => cases arrived

/-- A rendezvous stays complete. -/
theorem State.Gathered.complete_of_moved {around : Surroundings} {state next : State}
    {thread : Thread} {events : List Event} (gathered : state.Gathered)
    (moved : Moved around state thread next events)
    (complete : state.shared.rendezvous.complete = true) :
    next.shared.rendezvous.complete = true := by
  cases moved with
  | worker number there stepped =>
      rwa [(gathered.after_complete there (Worker.turn stepped) complete).1]
  | reader | requester | coordinator => exact complete

namespace State.Summed

variable {around : Surroundings} {state next : State} {shared : Shared} {number : Count}
variable {worker after : Worker} {taken : List (Nat × String)} {events : List Event}

theorem start (around : Surroundings) (capacity workers : Nat) (source : List Feed)
    (requests : Nat) : (State.start capacity workers source requests).Summed around where
  placed index worker there := by
    rw [List.eq_of_mem_replicate (List.mem_of_getElem? there)]
    trivial
  told index tally there := by
    rcases there with there | there
    · cases List.eq_of_mem_replicate (List.mem_of_getElem? there)
    · cases List.eq_of_mem_replicate (List.mem_of_getElem? there)
  published tally there := by cases there
  coordinator := trivial

/-- The worker after a step is where it may be. -/
theorem placed_turn (summed : state.Summed around) (gathered : state.Gathered)
    (manned : state.Manned around taken) (few : state.workers.length < Count.limit)
    (fits : taken.length < Count.limit) (there : state.workers[number.toNat]? = some worker)
    (turn : Worker.Turn around state.shared number worker shared after events) :
    after.Placed around number.toNat := by
  have placed := summed.placed _ _ there
  have arrives (arrival : Arrival) :
      (Worker.afterRendezvous number.toNat arrival).Placed around number.toNat := by
    rcases Worker.afterRendezvous_cases number.toNat arrival with ⟨first, same⟩ | same
    · rw [same]
      exact first
    · rw [same]
      trivial
  cases turn with
  | comesLate arrived => exact absurd arrived (gathered.arrive_ne_error few there _ _)
  | meets | resumes => exact arrives _
  | sumFaults summed =>
      have complete := gathered.past _ _ there rfl
      exact absurd summed (manned.aggregate_ne_error gathered fits complete _)
  | sums | reports => exact placed
  | sinkFaults received => exact ⟨placed, _, received⟩
  | _ => trivial

/-- What a worker comes to report or to publish is the sum of the slots. -/
theorem told_turn (summed : state.Summed around)
    (there : state.workers[number.toNat]? = some worker)
    (turn : Worker.Turn around state.shared number worker shared after events) {tally : Tally}
    (tells : after = .reporting tally ∨ after = .publishing tally) :
    shared.slots.aggregate = .ok tally := by
  have arrives := Worker.afterRendezvous_of
    (fun worker => worker ≠ .reporting tally ∧ worker ≠ .publishing tally) ⟨nofun, nofun⟩
    ⟨nofun, nofun⟩ number.toNat
  cases turn with
  | sums added =>
      rcases tells with same | same
      · cases same
        exact added
      · cases same
  | reports =>
      rcases tells with same | same
      · cases same
      · cases same
        exact summed.told _ _ (Or.inl there)
  | meets | resumes =>
      rcases tells with same | same
      · exact absurd same (arrives _).1
      · exact absurd same (arrives _).2
  | _ =>
      rcases tells with same | same
      · cases same
      · cases same

theorem published_turn (summed : state.Summed around) (gathered : state.Gathered)
    (there : state.workers[number.toNat]? = some worker)
    (turn : Worker.Turn around state.shared number worker shared after events) {tally : Tally}
    (told : shared.published = some tally) :
    shared.rendezvous.complete = true ∧ shared.slots.aggregate = .ok tally := by
  have before : state.shared.rendezvous.complete = true ∧
      state.shared.slots.aggregate = .ok tally := by
    cases turn with
    | publishes =>
        cases told
        exact ⟨gathered.past _ _ there rfl, summed.told _ _ (Or.inr there)⟩
    | _ => exact summed.published tally told
  rcases gathered.after_complete there turn before.1 with ⟨rendezvous, slots⟩
  rw [rendezvous, slots]
  exact before

/-- What the coordinator knows of the workers is not upset by one that is still running. -/
theorem knows_turn {coordinator : Coordinator} (knows : coordinator.Knows state)
    (there : state.workers[number.toNat]? = some worker)
    (turn : Worker.Turn around state.shared number worker shared after events) :
    coordinator.Knows { state with shared, workers := state.workers.set number.toNat after } := by
  have running := turn.isOver_eq_false
  have some_running := not_all_over (List.mem_of_getElem? there) running
  cases coordinator with
  | awaitingReader => trivial
  | awaitingWorkers reading following =>
      have atEnd : ∀ index other, (state.workers.set number.toNat after)[index]? = some other →
          index < following → other.isOver = true := by
        apply forall_of_set
        · intro before
          rw [knows.2 _ _ before there] at running
          cases running
        · exact fun index other _ there before => knows.2 index other before there
      exact ⟨knows.1, fun index other before there => atEnd index other there before⟩
  | announcing reading | totalling reading => exact absurd knows.2 some_running
  | closing reading tally | returned summary => exact absurd knows.2.1 some_running
  | died fault => exact knows.elim

theorem turn (summed : state.Summed around) (gathered : state.Gathered)
    (manned : state.Manned around taken) (few : state.workers.length < Count.limit)
    (fits : taken.length < Count.limit) (there : state.workers[number.toNat]? = some worker)
    (turn : Worker.Turn around state.shared number worker shared after events) :
    ({ state with shared, workers := state.workers.set number.toNat after } : State).Summed
      around where
  placed := by
    apply forall_of_set
    · exact summed.placed_turn gathered manned few fits there turn
    · exact fun index other _ => summed.placed index other
  told index tally there' := by
    by_cases same : index = number.toNat
    · subst same
      have inside := (List.getElem?_eq_some_iff.mp there).1
      simp only [List.getElem?_set_self inside, Option.some.injEq] at there'
      exact summed.told_turn there turn there'
    · simp only [List.getElem?_set_ne (Ne.symm same)] at there'
      have complete : state.shared.rendezvous.complete = true := by
        rcases there' with reporting | publishing
        · exact gathered.past _ _ reporting rfl
        · exact gathered.past _ _ publishing rfl
      rw [(gathered.after_complete there turn complete).2]
      exact summed.told index tally there'
  published tally told := summed.published_turn gathered there turn told
  coordinator := knows_turn summed.coordinator there turn

/-- What the coordinator comes to know is so. -/
theorem coordinate (summed : state.Summed around) (gathered : state.Gathered)
    (manned : state.Manned around taken) (fits : taken.length < Count.limit)
    {coordinator : Coordinator}
    (stepped : state.coordinator.step state = some (coordinator, events)) :
    ({ state with coordinator } : State).Summed around := by
  refine ⟨summed.placed, summed.told, summed.published, ?_⟩
  have knows := summed.coordinator
  have turn := Coordinator.turn stepped
  generalize state.coordinator = before at turn knows
  have further {following : Nat} {worker : Worker}
      (earlier : ∀ (index : Nat) (other : Worker), index < following →
        state.workers[index]? = some other → other.isOver = true)
      (there : state.workers[following]? = some worker) (atEnd : worker.isOver = true) :
      ∀ (index : Nat) (other : Worker), index < following + 1 →
        state.workers[index]? = some other → other.isOver = true := by
    intro index other before found
    rcases Nat.lt_succ_iff_lt_or_eq.mp before with sooner | rfl
    · exact earlier index other sooner found
    · rw [there] at found
      cases found
      exact atEnd
  cases turn with
  | hears finished => exact ⟨⟨_, finished, rfl⟩, by simp⟩
  | losesReader finished => exact ⟨⟨_, finished, rfl⟩, by simp⟩
  | joins there => exact ⟨knows.1, further knows.2 there rfl⟩
  | joinsDead there => exact ⟨knows.1, further knows.2 there rfl⟩
  | hasJoinedAll none =>
      refine ⟨knows.1, ?_⟩
      intro worker member
      rcases List.getElem?_of_mem member with ⟨index, there⟩
      have inside := (List.getElem?_eq_some_iff.mp there).1
      rw [List.getElem?_eq_none_iff] at none
      exact knows.2 index worker (lt_of_lt_of_le inside none) there
  | announces => exact knows
  | findsSum told => exact ⟨knows.1, knows.2, (summed.published _ told).2⟩
  | sums added => exact ⟨knows.1, knows.2, added⟩
  | sumFaults faulted =>
      have complete := gathered.complete_of_over knows.2
      exact absurd faulted (manned.aggregate_ne_error gathered fits complete _)
  | closes =>
      rcases knows with ⟨⟨result, finished, rfl⟩, atEnd, added⟩
      exact ⟨⟨result, finished, rfl, rfl, rfl⟩, atEnd, added, id⟩

/-- What the coordinator knows stays so when the flag is set. -/
theorem knows_mono {coordinator : Coordinator} {queue : Queue Thread String}
    {requesters : List Requester} (knows : coordinator.Knows state)
    (set : state.shared.queue.cancelled = true → queue.cancelled = true) :
    coordinator.Knows
      { state with shared := { state.shared with queue := queue }, requesters } := by
  cases coordinator with
  | returned summary => exact ⟨knows.1, knows.2.1, knows.2.2.1, fun cut => set (knows.2.2.2 cut)⟩
  | _ => exact knows

end State.Summed

/-! ## All that holds along every run -/

/-- What holds of every state of a scan, and of what has been observed before. -/
structure State.Sound (around : Surroundings) (source : List Entry) (workers : Nat)
    (events : List Event) (state : State) : Prop where
  queued : state.Queued source events
  ranked : state.Ranked
  gathered : state.Gathered
  manned : state.Manned around (takes events)
  summed : state.Summed around
  number : state.workers.length = workers

theorem State.Sound.step {around : Surroundings} {source : List Entry} {workers : Nat}
    {before events : List Event} {state next : State} {thread : Thread}
    (only : around.ShutsDown) (sound : state.Sound around source workers before)
    (moved : Moved around state thread next events) :
    next.Sound around source workers (before ++ events) := by
  have queued := sound.queued.step only moved
  have fits := sound.queued.length_takes_lt
  have careful := sound.queued.tame.calls thread
  rcases moved.moves with ⟨transfer, moves, -, took⟩
  have set := moves.advances.cancelled_mono
  have silent (elsewhere : ∀ pop, state.calls thread ≠ .pop pop) :
      takes (before ++ events) = takes before := by
    rw [moves.advances.departed_eq_nil elsewhere, List.map_eq_nil_iff] at took
    rw [takes_append, took, List.append_nil]
  cases moved with
  | @reader _ step stepped =>
      have reading : ∀ pop, state.reader.call ≠ .pop pop := by
        have shuts := sound.queued.tame.within.reader
        generalize state.reader = reader at shuts
        intro pop there
        cases reader with
        | acting rest reading inside =>
            rcases Acting.call_eq_cancel String shuts.2 with ⟨place, call⟩
            simp [Reader.call, call] at there
        | _ => simp [Reader.call] at there
      have manned := sound.manned
      rw [← silent reading] at manned
      have knows : state.coordinator.Knows
          { state with
            shared := { state.shared with queue := step.queue }, reader := step.reader } := by
        have knows := sound.summed.coordinator
        have unfinished : ∀ result, state.reader ≠ .finished result := by
          intro result finished
          rw [finished] at stepped
          cases stepped
        generalize state.coordinator = coordinator at knows
        cases coordinator with
        | awaitingReader => trivial
        | died => exact knows
        | awaitingWorkers | announcing | totalling | closing | returned =>
            rcases knows.1 with ⟨result, finished, -⟩
            exact absurd finished (unfinished result)
      exact ⟨queued, { sound.ranked with }, { sound.gathered with }, { manned with },
        { sound.summed with coordinator := knows }, sound.number⟩
  | @worker _ worker _ number there stepped =>
      have turn := Worker.turn stepped
      have few := sound.ranked.few
      have unfaulted : ∀ fault, worker.call ≠ .pop (.leaving (.error fault)) := by
        intro fault there'
        have ground := (sound.queued.consistent.fits (.worker number.toNat)).ground
        rw [calls_worker there, there'] at ground
        exact ground
      have manned := sound.manned.turn there turn fits unfaulted
      rw [← takes_append] at manned
      exact ⟨queued, sound.ranked.turn there turn, sound.gathered.turn few there turn, manned,
        sound.summed.turn sound.gathered sound.manned few fits there turn,
        (List.length_set).trans sound.number⟩
  | @requester index inside acted there stepped =>
      have asking : ∀ pop, state.calls (.requester index) ≠ .pop pop := by
        rcases Acting.call_eq_cancel String (sound.queued.tame.within.requesters _ _ there) with
          ⟨place, call⟩
        rw [calls_requester there, Requester.call, call]
        simp
      have manned := sound.manned
      rw [← silent asking] at manned
      exact ⟨queued, { sound.ranked with }, { sound.gathered with }, { manned with },
        { sound.summed with coordinator := State.Summed.knows_mono sound.summed.coordinator set },
        sound.number⟩
  | coordinator stepped =>
      have manned := sound.manned
      rw [← silent (by simp)] at manned
      exact ⟨queued, { sound.ranked with }, { sound.gathered with }, { manned with },
        sound.summed.coordinate sound.gathered sound.manned fits stepped, sound.number⟩

/-- Every state of a run of a scan is sound. -/
theorem sound_of_run {around : Surroundings} (only : around.ShutsDown) {capacity workers : Count}
    (positive : 0 < capacity.toNat) {source : List Feed} {requests : Nat} {events : List Event}
    {last : State}
    (run : (system around).Run (State.start capacity.toNat workers.toNat source requests)
      events last) :
    last.Sound around (source.map Feed.entry) workers.toNat events := by
  refine run.keeps ?_ fun _ _ _ _ _ _ sound stepped => sound.step only (moved_of_step stepped)
  exact ⟨.start positive _ _ _, .start _ _ _ _, .start _ _ _ _, .start _ _ _ _ _,
    .start _ _ _ _ _, by simp [State.start]⟩

end LineTally.Scan
