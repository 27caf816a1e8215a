import LineTally.Proofs.Scan.Outcome

/-!
# What a scan has counted is a beginning of its lines

However a scan ends, the lines that its workers took are the first of the lines that its source
yields, and each of them is counted by the worker that took it.  So its summary is that of a
beginning of the source, also when shutdown was asked for while the scan was going on.
-/

namespace LineTally.Scan

section Returned

variable {around : Surroundings} {source : List Entry} {workers : Nat} {events : List Event}
variable {last : State} {summary : Summary}

theorem coordinator_of_summary (returned : last.summary? = some summary) :
    last.coordinator = .returned summary := by
  unfold State.summary? at returned
  split at returned
  next there =>
    cases returned
    exact there
  next => cases returned

/-- A scan is over only by a summary: its coordinator does not fault. -/
theorem exists_summary_of_isOver (sound : last.Sound around source workers events)
    (atEnd : last.coordinator.isOver = true) : ∃ summary, last.summary? = some summary := by
  have knows := sound.summed.coordinator
  unfold State.summary?
  generalize last.coordinator = coordinator at atEnd knows
  cases coordinator with
  | returned summary => exact ⟨summary, rfl⟩
  | died fault => exact knows.elim
  | awaitingReader | awaitingWorkers | announcing | totalling | closing => cases atEnd

/-- The coordinator that has returned knows what its summary says. -/
theorem knows_of_summary (sound : last.Sound around source workers events)
    (returned : last.summary? = some summary) : (Coordinator.returned summary).Knows last :=
  coordinator_of_summary returned ▸ sound.summed.coordinator

/-- When the workers are over, the sum of the slots is that of what they took, and it tells what is
in each slot. -/
theorem State.Sound.sums_of_over (sound : last.Sound around source workers events)
    (atEnd : ∀ worker ∈ last.workers, worker.isOver = true) {tally : Tally}
    (summed : last.shared.slots.aggregate = .ok tally) :
    tally.Sums around.predicate (takes events) workers ∧
      ∀ (index : Nat) (entry : WorkerTally), tally.workers[index]? = some entry →
        last.shared.slots.get? index = some entry := by
  rcases sound.manned.aggregate_eq_ok sound.gathered sound.queued.length_takes_lt
    (sound.gathered.complete_of_over atEnd) with ⟨sum, added, entries, sums⟩
  rw [summed] at added
  cases added
  rw [sound.number] at sums
  refine ⟨sums, fun index entry there => ?_⟩
  rw [Slots.get?, entries, List.getElem?_map, there]
  rfl

/-- The summary is the sum of what the workers took. -/
theorem sums_of_summary (sound : last.Sound around source workers events)
    (returned : last.summary? = some summary) :
    summary.tally.Sums around.predicate (takes events) workers := by
  rcases knows_of_summary sound returned with ⟨-, finished, added, -⟩
  exact (sound.sums_of_over finished added).1

/-- The lines that were taken are a beginning of those that the source yields. -/
theorem takes_begin (sound : last.Sound around source workers events) :
    (takes events).map Prod.snd <+: nonEmpty (yielded source) := by
  have first : (takes events).map Prod.snd <+: puts events := by
    rw [sound.queued.items]
    exact List.prefix_append ..
  exact first.trans sound.queued.reader.puts_prefix.1

/-- What workers come to whose test always answers. -/
theorem tally_of_answers (sound : last.Sound around source workers events)
    (answers : ∀ line, around.predicate.Answers line)
    (returned : last.summary? = some summary) :
    (∃ consumed : Count, summary.tally.consumed = .ok consumed ∧
      consumed.toNat = (takes events).length) ∧
      summary.tally.total.toNat =
        ((takes events).map Prod.snd).countP around.predicate.accepts ∧
      ∀ tally ∈ summary.tally.workers, tally.failed = false := by
  have sums := sums_of_summary sound returned
  refine ⟨sums.tallied.consumed_eq_ok sound.queued.length_takes_lt answers, ?_, ?_⟩
  · rw [sums.total]
    exact sums.tallied.sum_eq (·.matched.toNat) _ fun _ _ _ of => (of.exact answers).1
  · intro tally member
    rcases sums.tallied.of_mem member with ⟨number, lines, of⟩
    exact (of.exact answers).2.2

/-- What the reader of a scan came to, and what the summary says of it. -/
theorem stopped_of_summary (sound : last.Sound around source workers events)
    (returned : last.summary? = some summary) :
    ∃ result, Reader.Stopped (last.shared.queue.cancelled = true) False source (puts events)
        result ∧
      summary.linesRead = (readingOf result).linesRead ∧
      summary.produced = (readingOf result).produced ∧
      summary.sourceError = (readingOf result).error := by
  have account := sound.queued.reader
  rcases (knows_of_summary sound returned).1 with ⟨result, finished, said⟩
  rw [finished] at account
  exact ⟨result, account, said⟩

end Returned

/-- A scan counts a beginning of its lines exactly, wherever the requests for shutdown fall: the
lines that its workers took are the first lines of the source, as many as the summary says, each
counted by the one worker that took it. -/
theorem counts_are_of_first_lines {capacity workers : Count} (positive : 0 < capacity.toNat)
    (matches? : String → Bool) (shutdowns : String → Nat) (sink : Tally → Option Fault)
    (source : List Feed) (requests : Nat) {events : List Event} {last : State} {summary : Summary}
    (run : (system (.ofTest
        (fun line => { shutdowns := shutdowns line, answer := .ok (matches? line) }) sink)).Run
      (State.start capacity.toNat workers.toNat source requests) events last)
    (returned : last.summary? = some summary) :
    ∃ consumed : Count, summary.tally.consumed = .ok consumed ∧
      (takes events).length = consumed.toNat ∧
      (takes events).map Prod.snd =
        (nonEmpty (yielded (source.map Feed.entry))).take consumed.toNat ∧
      (∀ taken ∈ takes events, taken.1 < workers.toNat) ∧
      summary.tally.workers.length = workers.toNat ∧
      (∀ (index : Nat) (tally : WorkerTally), summary.tally.workers[index]? = some tally →
        tally.consumed.toNat = (ofThread index (takes events)).length ∧
        tally.matched.toNat = (ofThread index (takes events)).countP matches? ∧
        tally.failed = false) ∧
      summary.tally.total.toNat =
        ((nonEmpty (yielded (source.map Feed.entry))).take consumed.toNat).countP matches? := by
  have sound := sound_of_run (Surroundings.ofTest_shutsDown _ sink) positive run
  have sums := sums_of_summary sound returned
  generalize around_eq : Surroundings.ofTest
    (fun line => { shutdowns := shutdowns line, answer := .ok (matches? line) }) sink = around
    at sound sums
  have answers : ∀ line, around.predicate.Answers line := by
    intro line
    subst around_eq
    exact ⟨matches? line, rfl⟩
  have accepts : around.predicate.accepts = matches? := by
    subst around_eq
    rfl
  rcases sums.tallied.consumed_eq_ok sound.queued.length_takes_lt answers with
    ⟨consumed, added, amount⟩
  have first : (takes events).map Prod.snd =
      (nonEmpty (yielded (source.map Feed.entry))).take consumed.toNat := by
    have begins := List.prefix_iff_eq_take.mp (takes_begin sound)
    rwa [List.length_map, ← amount] at begins
  have total : summary.tally.total.toNat =
      ((nonEmpty (yielded (source.map Feed.entry))).take consumed.toNat).countP matches? := by
    rw [sums.total, ← first, ← accepts]
    exact sums.tallied.sum_eq (·.matched.toNat) _ fun _ _ _ of => (of.exact answers).1
  refine ⟨consumed, added, amount.symm, first, ?_, sums.length, ?_, total⟩
  · intro taken member
    rw [← sums.length]
    exact sums.tallied.inside taken member
  · intro index tally there
    rcases sums.tallied.each index tally there with ⟨number, -, of⟩
    rcases of.exact answers with ⟨matched, consumed, sound⟩
    rw [accepts] at matched
    exact ⟨consumed, matched, sound⟩

/-- The test asks for shutdown on the second line that it sees, while two more wait in the queue:
they are not counted. -/
theorem counts_are_of_first_lines_of_interrupted :
    let two : Count := ⟨2, by decide⟩
    let around : Surroundings := .ofTest
      (fun line => { shutdowns := if line = "b" then 1 else 0, answer := .ok (line = "b") })
      fun _ => none
    let first : State := .start two.toNat two.toNat
      [.line "a", .line "", .line "b", .line "c", .line "d", .line "e"] 0
    let run := (system around).settle
      (fun _ => [.reader, .worker 0, .worker 1, .coordinator]) 120 first
    ∃ summary consumed, 0 < two.toNat ∧ run.1.summary? = some summary ∧
      summary.cancelled = true ∧ summary.tally.consumed = .ok consumed ∧ consumed.toNat = 2 ∧
      (takes run.2).map Prod.snd = ["a", "b", "c", "d", "e"].take consumed.toNat := by
  intro two around first run
  have returned : run.1.summary?.isSome = true := by decide +kernel
  rcases Option.isSome_iff_exists.mp returned with ⟨summary, there⟩
  have cut : (run.1.summary?.map (·.cancelled)) = some true := by decide +kernel
  rw [there] at cut
  have two_taken : (takes run.2).length = 2 := by decide +kernel
  rcases counts_are_of_first_lines (by decide) (· = "b") (fun line => if line = "b" then 1 else 0)
    (fun _ => none) [.line "a", .line "", .line "b", .line "c", .line "d", .line "e"] 0
    (System.run_settle _ _ 120 first) there with
    ⟨consumed, added, amount, taken, -⟩
  exact ⟨summary, consumed, by decide, there, by simpa using cut, added,
    amount.symm.trans two_taken, taken⟩

end LineTally.Scan
