import LineTally.Proofs.Scan.Counting

/-!
# How the counts of a summary compare

The workers count no more matches than lines, and not more lines than were put into the queue; what
the reader puts there it has read.  The summary says so, since its counts are those of the workers
and of the reader, as long as the reader lives to tell.  What a reader has counted that ends by a
fault is lost, and the summary says that it did nothing, whatever the workers have counted.
-/

namespace LineTally

open Scan

/-- The summary has the counts of a reader that lived: it says how many lines were put into the
queue, which the workers cannot exceed, and how many of them were read. -/
structure Summary.Tells (source : List Entry) (put : List String) (consumed : Count)
    (summary : Summary) : Prop where
  consumed : consumed.toNat ≤ summary.produced.toNat
  produced : summary.produced.toNat = put.length
  put : summary.produced.toNat ≤ summary.linesRead.toNat
  linesRead : summary.linesRead.toNat ≤ (yielded source).length

/-- The summary has no counts of the reader, which ended by a fault: its source gave up, or gave more
lines than can be counted. -/
structure Summary.Bereft (source : List Entry) (summary : Summary) : Prop where
  linesRead : summary.linesRead = 0
  produced : summary.produced = 0
  sourceError : summary.sourceError = some "line source panicked"
  cause : (∃ message, closeOf source = .gaveUp message) ∨ Count.limit ≤ (yielded source).length

namespace Scan

section Returned

variable {around : Surroundings} {source : List Entry} {workers : Nat} {events : List Event}
variable {last : State} {summary : Summary}

/-- The workers do not count more matches than lines, nor more lines than were put. -/
theorem consumed_le_puts (sound : last.Sound around source workers events)
    (returned : last.summary? = some summary) :
    ∃ consumed : Count, summary.tally.consumed = .ok consumed ∧
      summary.tally.total.toNat ≤ consumed.toNat ∧ consumed.toNat ≤ (puts events).length := by
  have sums := sums_of_summary sound returned
  have items := congrArg List.length sound.queued.items
  rw [List.length_append, List.length_map] at items
  rcases sums.tallied.consumed_eq_sum sound.queued.length_takes_lt with
    ⟨consumed, added, amount, fewer⟩
  refine ⟨consumed, added, ?_, by omega⟩
  rw [sums.total, amount]
  exact sums.tallied.total_le_consumed

/-- What a summary says of the reader depends on how the reader ended. -/
theorem tells_or_bereft (sound : last.Sound around source workers events)
    (returned : last.summary? = some summary) {consumed : Count}
    (fewer : consumed.toNat ≤ (puts events).length) :
    summary.Tells source (puts events) consumed ∨ summary.Bereft source := by
  rcases stopped_of_summary sound returned with
    ⟨result, stopped, linesRead, produced, sourceError⟩
  cases result with
  | ok reading =>
      rcases stopped.counted with ⟨put, read, given⟩
      rw [← put] at read
      exact Or.inl {
        consumed := by rw [produced]; exact fewer.trans (Nat.le_of_eq put.symm)
        produced := by rw [produced]; exact put
        put := by rw [produced, linesRead]; exact read
        linesRead := by rw [linesRead]; exact given }
  | error fault =>
      exact Or.inr { linesRead, produced, sourceError, cause := stopped.faulted }

end Returned

/-- The matches are no more than the lines that the workers count, these are no more than the lines
that were put into the queue, and these no more than the source has.  The summary says the same of
the reader unless its thread ended by a fault. -/
theorem counts_in_order_unless_reader_lost {capacity workers : Count}
    (positive : 0 < capacity.toNat) (test : Test) (sink : Tally → Option Fault)
    (source : List Feed) (requests : Nat) {events : List Event} {last : State}
    {summary : Summary}
    (run : (system (.ofTest test sink)).Run
      (State.start capacity.toNat workers.toNat source requests) events last)
    (returned : last.summary? = some summary) :
    ∃ consumed : Count, summary.tally.consumed = .ok consumed ∧
      summary.tally.total.toNat ≤ consumed.toNat ∧ consumed.toNat ≤ (puts events).length ∧
      (puts events).length ≤ (yielded (source.map Feed.entry)).length ∧
      (summary.Tells (source.map Feed.entry) (puts events) consumed ∨
        summary.Bereft (source.map Feed.entry)) := by
  have sound := sound_of_run (Surroundings.ofTest_shutsDown test sink) positive run
  rcases consumed_le_puts sound returned with ⟨consumed, added, fewer, short⟩
  have given : (puts events).length ≤ (yielded (source.map Feed.entry)).length :=
    sound.queued.reader.puts_prefix.1.length_le.trans (length_nonEmpty_le _)
  exact ⟨consumed, added, fewer, short, given, tells_or_bereft sound returned short⟩

/-- One of two workers gives up on a line, its counts are lost, and one line is empty: the counts
of the summary differ, and they are in order. -/
theorem counts_in_order_unless_reader_lost_of_failed_worker :
    let two : Count := ⟨2, by decide⟩
    let test : Test := fun line =>
      { answer := if line = "d" then .error "no luck" else .ok (line = "a") }
    let source : List Feed := [.line "a", .line "b", .line "", .line "d", .line "a"]
    let around : Surroundings := .ofTest test fun _ => none
    let first : State := .start two.toNat two.toNat source 0
    let run := (system around).settle State.order 300 first
    ∃ summary consumed, 0 < two.toNat ∧ run.1.summary? = some summary ∧
      summary.tally.failedWorkers = 1 ∧ summary.tally.consumed = .ok consumed ∧
      summary.tally.total.toNat ≤ consumed.toNat ∧
      consumed.toNat < summary.produced.toNat ∧
      summary.Tells (source.map Feed.entry) (puts run.2) consumed := by
  intro two test source around first run
  have seen : (run.1.summary?.map fun summary => (summary.tally.failedWorkers,
      summary.tally.consumed.toOption, summary.produced, summary.sourceError)) =
      some (1, some two, ⟨4, by decide⟩, none) := by decide +kernel
  rcases Option.map_eq_some_iff.mp seen with ⟨summary, there, said⟩
  simp only [Prod.mk.injEq] at said
  have reached := System.run_settle (system around) State.order 300 first
  rcases @counts_in_order_unless_reader_lost two two (by decide) test (fun _ => none) source 0
    run.2 run.1 summary reached there with ⟨consumed, added, fewer, -, -, tells | bereft⟩
  · rw [added] at said
    have less : consumed.toNat < summary.produced.toNat := by
      rw [said.2.2.1, Option.some.inj said.2.1]
      decide
    exact ⟨summary, consumed, by decide, there, said.1, added, fewer, less, tells⟩
  · rw [bereft.sourceError] at said
    cases said.2.2.2

/-- The source gives up behind its only line, which the worker counts: the summary says that nothing
was read or put. -/
theorem counts_out_of_order_without_reader :
    let four : Count := ⟨4, by decide⟩
    let around : Surroundings := .ofTest (Test.ofPredicate (· = "a")) fun _ => none
    let first : State :=
      .start four.toNat (1 : Count).toNat [.line "a", .fault "gone"] 0
    let run := (system around).settle State.order 100 first
    ∃ summary, (system around).Run first run.2 run.1 ∧ run.1.summary? = some summary ∧
      summary.tally.consumed.toOption = some 1 ∧ puts run.2 = ["a"] ∧
      summary.produced = 0 ∧ summary.linesRead = 0 := by
  intro four around first run
  have seen : (run.1.summary?.map fun summary =>
      (summary.tally.consumed.toOption, summary.produced, summary.linesRead)) =
      some (some 1, 0, 0) := by decide +kernel
  have put : puts run.2 = ["a"] := by decide +kernel
  rcases Option.map_eq_some_iff.mp seen with ⟨summary, there, said⟩
  simp only [Prod.mk.injEq] at said
  exact ⟨summary, System.run_settle _ _ 100 first, there, said.1, put, said.2⟩

end Scan

end LineTally
