import LineTally.Proofs.Scan.Counting

/-!
# Arithmetic that does not fault

A scan counts in machine words, and a count that does not fit ends the thread that computes it.  If
the source yields fewer lines than can be counted, all counts fit.  The reader counts no more than
these lines.  What a worker counts says nothing yet of what all of them count together; but they
share the lines that the reader put, so their sum is no more than these either.  The ring, the
number of the living and the arrivals at the rendezvous are bounded by what they count.
-/

namespace LineTally

/-- A checked operation has a result. -/
def Succeeds {ε ρ : Type} (operation : Except ε ρ) : Prop :=
  ∃ result, operation = .ok result

/-! ## The counts of the reader -/

section Reading

variable {read put : List String} {reading : Reading}

/-- One more line is counted if there are not too many. -/
theorem Reading.Of.counts_line (of : reading.Of read put) (fits : read.length + 1 < Count.limit) :
    Succeeds reading.linesRead.succ ∧ Succeeds reading.skippedEmpty.succ := by
  have fewer := List.length_filter_le (·.isEmpty) read
  rcases Count.succ_eq_ok (of.linesRead ▸ fits) with ⟨linesRead, more, -⟩
  have skippedFits : reading.skippedEmpty.toNat + 1 < Count.limit := by
    rw [of.skipped]
    omega
  rcases Count.succ_eq_ok skippedFits with ⟨skipped, skips, -⟩
  exact ⟨⟨linesRead, more⟩, ⟨skipped, skips⟩⟩

/-- A line that was put has been read before, so it is counted among those that were put as well. -/
theorem Reading.Of.counts_put {text : String} (of : reading.Of (read ++ [text]) (nonEmpty read)) :
    Succeeds reading.produced.succ := by
  have fewer := length_nonEmpty_le read
  have below := of.length_lt
  rw [List.length_append, List.length_singleton] at below
  have fits : reading.produced.toNat + 1 < Count.limit := by
    rw [of.produced]
    omega
  rcases Count.succ_eq_ok fits with ⟨produced, more, -⟩
  exact ⟨produced, more⟩

end Reading

/-- A worker failed because the predicate gave up on one of its lines. -/
theorem WorkerTally.Of.exists_givesUp {predicate : Predicate} {index : Count}
    {lines : List String} {tally : WorkerTally} (of : tally.Of predicate index lines)
    (failed : tally.failed = true) : ∃ line ∈ lines, predicate.givesUp line = true := by
  cases of with
  | counted => cases failed
  | @gaveUp lines line message _ answer =>
      exact ⟨line, by simp, by simp [Predicate.givesUp, answer]⟩

namespace Scan

open Queue

/-- What is in the slot of a worker is what the worker came to. -/
theorem Worker.Account.of_filled {predicate : Predicate} {number : Count} {taken : List String}
    {slot : Option WorkerTally} {worker : Worker} {tally : WorkerTally}
    (account : worker.Account predicate number taken slot) (filled : slot = some tally) :
    tally.Of predicate number taken := by
  cases recorded : worker.hasRecorded with
  | true =>
      rcases (Worker.account_iff_of_hasRecorded recorded).mp account with ⟨other, there, of⟩
      cases there.symm.trans filled
      exact of
  | false =>
      cases worker with
      | consuming | recording => cases account.1.symm.trans filled
      | _ => cases recorded

/-! ## What is computed next -/

/-- Somebody has this sum in hands: it is about to be reported or published, it was published, or
it is returned. -/
inductive State.Holds (state : State) : Tally → Prop where
  | reporting {index : Nat} {tally : Tally}
      (there : state.workers[index]? = some (.reporting tally)) : Holds state tally
  | publishing {index : Nat} {tally : Tally}
      (there : state.workers[index]? = some (.publishing tally)) : Holds state tally
  | published {tally : Tally} (there : state.shared.published = some tally) : Holds state tally
  | closing {reading : Reading} {tally : Tally}
      (there : state.coordinator = .closing reading tally) : Holds state tally
  | returned {summary : Summary} (there : state.summary? = some summary) :
      Holds state summary.tally

/-- Every checked operation has a result that a thread performs in its next step. -/
structure State.Calculates (around : Surroundings) (state : State) : Prop where
  /-- The reader counts the next line of its source, and counts it once more if it is empty. -/
  reads : ∀ rest reading text, state.reader = .asking (.line text :: rest) reading →
    Succeeds reading.linesRead.succ ∧ Succeeds reading.skippedEmpty.succ
  /-- The reader counts the line that it has put. -/
  produces : ∀ rest reading, state.reader = .pushing rest reading (.leaving .placed) →
    Succeeds reading.produced.succ
  /-- A line is put into the ring: the tail moves on, and there is one more. -/
  puts : ∀ thread line, state.calls thread = .push (.placing line) →
    Succeeds (state.shared.queue.ring.put line)
  /-- A line is taken from the ring: the head moves on, and there is one less. -/
  takes : ∀ thread, state.calls thread = .pop .taking → state.shared.queue.ring.count ≠ 0 →
    Succeeds state.shared.queue.ring.take
  /-- A worker counts the line on which the predicate answers. -/
  counts : ∀ (index : Nat) counts line matches?,
    state.workers[index]? = some (.consuming (.testing counts line [])) →
    (around.predicate line).answer = .ok matches? → Succeeds (counts.add matches?)
  /-- A worker that leaves the ranks of the living is one of them. -/
  leaves : ∀ index : Nat, state.workers[index]? = some .leaving → 0 < state.shared.live
  /-- A worker that arrives at the rendezvous is counted there. -/
  arrives : ∀ index : Nat, state.workers[index]? = some .arriving →
    Succeeds (state.shared.rendezvous.arrive (.worker index))
  /-- The worker that sums up finds the sum. -/
  sums : ∀ index : Nat, state.workers[index]? = some .aggregating →
    Succeeds state.shared.slots.aggregate
  /-- So does the coordinator. -/
  totals : ∀ reading, state.coordinator = .totalling reading →
    Succeeds state.shared.slots.aggregate
  /-- Whoever has the sum may ask how many lines were taken. -/
  consumed : ∀ tally, state.Holds tally → Succeeds tally.consumed

/-- No thread has been ended, and no call has been, by arithmetic: what ends the reader is its
source, what ends a worker is the sink, and what fails a worker is the predicate. -/
structure State.Unfaulted (around : Surroundings) (source : List Entry) (events : List Event)
    (state : State) : Prop where
  reader : ∀ fault, (∃ call, state.reader = .ending (.error fault) call) ∨
      state.reader = .finished (.error fault) →
    ∃ message, fault = .raised message ∧ closeOf source = .gaveUp message
  pushes : ∀ thread fault, state.calls thread ≠ .push (.leaving (.faulted fault))
  pops : ∀ thread fault, state.calls thread ≠ .pop (.leaving (.error fault))
  tallies : ∀ index tally, state.shared.slots.get? index = some tally → tally.failed = true →
    ∃ line, (index, line) ∈ takes events ∧ around.predicate.givesUp line = true
  workers : ∀ (index : Nat) fault, state.workers[index]? = some (.died fault) →
    ∃ tally, around.sink tally = some fault
  coordinator : ∀ fault, state.coordinator ≠ .died fault

/-! ## Why it fits -/

namespace State.Sound

variable {around : Surroundings} {source : List Entry} {workers : Nat} {events : List Event}
variable {state : State}

/-- The slots are summed up without a fault when the rendezvous is complete, and so are the lines
that were taken. -/
theorem sums_of_complete (sound : state.Sound around source workers events)
    (complete : state.shared.rendezvous.complete = true) :
    ∃ tally, state.shared.slots.aggregate = .ok tally ∧ Succeeds tally.consumed := by
  have fits := sound.queued.length_takes_lt
  rcases sound.manned.aggregate_eq_ok sound.gathered fits complete with ⟨tally, added, -, sums⟩
  rcases sums.tallied.consumed_eq_sum fits with ⟨consumed, amount, -⟩
  exact ⟨tally, added, consumed, amount⟩

/-- Whoever has a sum has that of the slots, and the rendezvous is complete. -/
theorem aggregate_of_holds (sound : state.Sound around source workers events) {tally : Tally}
    (holds : state.Holds tally) :
    state.shared.rendezvous.complete = true ∧ state.shared.slots.aggregate = .ok tally := by
  cases holds with
  | reporting there =>
      exact ⟨sound.gathered.past _ _ there rfl, sound.summed.told _ _ (Or.inl there)⟩
  | publishing there =>
      exact ⟨sound.gathered.past _ _ there rfl, sound.summed.told _ _ (Or.inr there)⟩
  | published there => exact sound.summed.published tally there
  | closing there =>
      have knows := sound.summed.coordinator
      rw [there] at knows
      exact ⟨sound.gathered.complete_of_over knows.2.1, knows.2.2⟩
  | returned there =>
      have knows := knows_of_summary sound there
      exact ⟨sound.gathered.complete_of_over knows.2.1, knows.2.2.1⟩

/-- In a sound state of a scan of a source that does not yield too many lines, everything that is
computed next has a result. -/
theorem calculates (sound : state.Sound around source workers events)
    (fits : (yielded source).length < Count.limit) : state.Calculates around where
  reads := by
    intro rest reading text there
    have account := sound.queued.reader
    rw [there] at account
    rcases account with ⟨read, lines, -, of, -⟩
    apply of.counts_line
    rw [lines, yielded, List.length_append, List.length_cons] at fits
    omega
  produces := by
    intro rest reading there
    have account := sound.queued.reader
    rw [there] at account
    rcases account with ⟨read, text, -, -, -, of, -⟩
    exact of.counts_put
  puts := by
    intro thread line there
    have ground := (sound.queued.consistent.fits thread).ground
    rw [there] at ground
    rcases sound.queued.consistent.ring.put line ground with ⟨ring, placed, -⟩
    exact ⟨ring, placed⟩
  takes := by
    intro thread _ filled
    rcases sound.queued.consistent.ring.take filled with ⟨line, ring, taken, -⟩
    exact ⟨(line, ring), taken⟩
  counts := by
    intro index counts line matches? there answer
    rcases sound.manned.each _ _ there with ⟨number, -, account⟩
    rcases account.2 with ⟨lines, taken, of⟩
    have few : (ofThread index (takes events)).length ≤ (takes events).length := by
      rw [ofThread, List.length_map]
      exact List.length_filter_le ..
    rw [taken, List.length_append, List.length_singleton] at few
    rcases of.add answer (lt_of_le_of_lt few sound.queued.length_takes_lt) with ⟨next, added, -⟩
    exact ⟨next, added⟩
  leaves := by
    intro index there
    rw [sound.ranked.live, List.countP_pos_iff]
    exact ⟨_, List.mem_of_getElem? there, rfl⟩
  arrives := by
    intro index there
    rcases sound.gathered.arrive_cases sound.ranked.few there (.worker index) with
      ⟨-, arrived⟩ | ⟨-, arrived⟩
    · exact ⟨_, arrived⟩
    · exact ⟨_, arrived⟩
  sums := by
    intro index there
    rcases sound.sums_of_complete (sound.gathered.past _ _ there rfl) with ⟨tally, added, -⟩
    exact ⟨tally, added⟩
  totals := by
    intro reading there
    have knows := sound.summed.coordinator
    rw [there] at knows
    rcases sound.sums_of_complete (sound.gathered.complete_of_over knows.2) with ⟨tally, added, -⟩
    exact ⟨tally, added⟩
  consumed := by
    intro tally holds
    rcases sound.aggregate_of_holds holds with ⟨complete, summed⟩
    rcases sound.sums_of_complete complete with ⟨other, added, consumed⟩
    cases summed.symm.trans added
    exact consumed

/-- A reader whose source does not yield too many lines is ended by nothing but its source. -/
theorem raised_of_stopped {flagged closed : Prop} {put : List String} {fault : Fault}
    (fits : (yielded source).length < Count.limit)
    (stopped : Reader.Stopped flagged closed source put (.error fault)) :
    ∃ message, fault = .raised message ∧ closeOf source = .gaveUp message := by
  cases stopped with
  | @gaveUp message close _ => exact ⟨message, rfl, close⟩
  | overflowed lines full =>
      rw [lines, List.length_append, List.length_cons] at fits
      omega

theorem unfaulted (sound : state.Sound around source workers events)
    (fits : (yielded source).length < Count.limit) : state.Unfaulted around source events where
  reader := by
    intro fault stopped
    have account := sound.queued.reader
    rcases stopped with ⟨call, there⟩ | there
    · rw [there] at account
      exact raised_of_stopped fits account
    · rw [there] at account
      exact raised_of_stopped fits account
  pushes := by
    intro thread fault there
    have ground := (sound.queued.consistent.fits thread).ground
    rw [there] at ground
    exact ground
  pops := by
    intro thread fault there
    have ground := (sound.queued.consistent.fits thread).ground
    rw [there] at ground
    exact ground
  tallies := by
    intro index tally filled failed
    have inside : index < state.workers.length := by
      rw [← sound.manned.slots]
      by_contra outside
      rw [Slots.get?, List.getElem?_eq_none (Nat.le_of_not_lt outside)] at filled
      cases filled
    rcases sound.manned.each index _ (List.getElem?_eq_getElem inside) with ⟨number, -, account⟩
    rcases (account.of_filled filled).exists_givesUp failed with ⟨line, taken, givesUp⟩
    exact ⟨line, mem_iff_mem_ofThread.mpr taken, givesUp⟩
  workers := fun index fault there => (sound.summed.placed index _ there).2
  coordinator := by
    intro fault there
    have knows := sound.summed.coordinator
    rw [there] at knows
    exact knows

end State.Sound

/-- No arithmetic of a scan faults whose source yields fewer lines than can be counted, whatever
capacity its queue has, however many workers there are, whatever the test, the source and the sink
do, whoever asks for shutdown, and in whatever order the threads take their steps. -/
theorem arithmetic_never_faults {capacity workers : Count} (positive : 0 < capacity.toNat)
    (test : Test) (sink : Tally → Option Fault) (source : List Feed)
    (fits : (yielded (source.map Feed.entry)).length < Count.limit) (requests : Nat)
    {events : List Event} {last : State}
    (run : (system (.ofTest test sink)).Run
      (State.start capacity.toNat workers.toNat source requests) events last) :
    last.Calculates (.ofTest test sink) ∧
      last.Unfaulted (.ofTest test sink) (source.map Feed.entry) events := by
  have sound := sound_of_run (Surroundings.ofTest_shutsDown test sink) positive run
  exact ⟨sound.calculates fits, sound.unfaulted fits⟩

/-- A source that gives up behind its lines, a test that gives up on one of them, and a sink that
gives up on the sum: nothing else ends a thread, and the lines that were taken can be added up. -/
theorem arithmetic_never_faults_of_giving_up :
    let two : Count := ⟨2, by decide⟩
    let test : Test := fun line =>
      { answer := if line = "b" then .error "no luck" else .ok true }
    let sink : Tally → Option Fault := fun _ => some (.raised "sink gave up")
    let source : List Feed := [.line "a", .line "", .line "b", .line "c", .fault "gone"]
    let first : State := .start (1 : Count).toNat two.toNat source 0
    let run := (system (.ofTest test sink)).settle State.order 300 first
    0 < (1 : Count).toNat ∧ (yielded (source.map Feed.entry)).length < Count.limit ∧
      run.1.Calculates (.ofTest test sink) ∧
      run.1.Unfaulted (.ofTest test sink) (source.map Feed.entry) run.2 ∧
      ∃ summary, run.1.summary? = some summary ∧ summary.tally.failedWorkers = 1 ∧
        summary.tally.total.toNat = 2 ∧ Succeeds summary.tally.consumed := by
  intro two test sink source first run
  have returned : (run.1.summary?.map fun summary =>
      (summary.tally.failedWorkers, summary.tally.total.toNat)) = some (1, 2) := by
    decide +kernel
  rcases Option.map_eq_some_iff.mp returned with ⟨summary, there, said⟩
  rcases Prod.mk.inj said with ⟨gaveUp, total⟩
  have few : (yielded (source.map Feed.entry)).length < Count.limit := by decide
  rcases arithmetic_never_faults (by decide) test sink source few 0
    (System.run_settle _ State.order 300 first) with ⟨calculates, unfaulted⟩
  exact ⟨by decide, few, calculates, unfaulted, summary, there, gaveUp, total,
    calculates.consumed _ (.returned there)⟩

end Scan

end LineTally
