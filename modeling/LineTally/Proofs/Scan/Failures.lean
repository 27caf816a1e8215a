import LineTally.Proofs.Scan.Abandonment
import LineTally.Proofs.Scan.Notice
import LineTally.Proofs.Scan.Progress
import LineTally.Proofs.Scan.Weight

/-!
# Failures are contained

A line on which the test gives up fails the worker that took it, and no other.  So if nobody asks for
shutdown, the number of workers that fail is that of such lines, as long as there are workers to
take them, whoever takes which line.  One worker that lives takes all that is left; if none does,
nothing is counted.
-/

namespace LineTally

open Scan

/-- The predicate that does nothing but answer or give up. -/
def Predicate.ofAnswer (answer : String → Except String Bool) : Predicate :=
  fun line => { answer := answer line }

/-- What is around a scan whose test does nothing but answer or give up. -/
def Scan.Surroundings.ofAnswer (answer : String → Except String Bool)
    (sink : Tally → Option Fault) : Surroundings :=
  { predicate := .ofAnswer answer, sink }

/-- What failures come to in a scan of these lines: each line on which the predicate gives up fails
one worker as long as there is one, workers that did not fail count all their matches, and as long
as one is left the scan goes on to its end. -/
structure Summary.Contained (predicate : Predicate) (lines : List String) (workers : Nat)
    (events : List Event) (summary : Summary) : Prop where
  failed : summary.tally.failedWorkers = min (lines.countP predicate.givesUp) workers
  total : summary.tally.total.toNat =
    (((takes events).filter fun taken =>
      !summary.tally.workers[taken.1]?.any (·.failed)).map Prod.snd).countP predicate.accepts
  spared : lines.countP predicate.givesUp < workers →
    summary.cancelled = false ∧ puts events = lines ∧ (takes events).map Prod.snd = lines
  lost : workers ≤ lines.countP predicate.givesUp →
    summary.tally.total = 0 ∧
      ∀ tally ∈ summary.tally.workers, tally.matched = 0 ∧ tally.consumed = 0
  cut : summary.cancelled = true → summary.tally.failedWorkers = workers

namespace Scan

section Returned

variable {around : Surroundings} {source : List Entry} {workers : Nat} {events : List Event}
variable {last : State} {summary : Summary}

/-- If all workers have failed, the summary says so. -/
theorem failedWorkers_of_allFailed (sound : last.Sound around source workers events)
    (returned : last.summary? = some summary)
    (failed : last.shared.slots.AllFailed last.workers.length) :
    summary.tally.failedWorkers = workers := by
  rcases knows_of_summary sound returned with ⟨-, atEnd, summed, -⟩
  rcases sound.sums_of_over atEnd summed with ⟨sums, slots⟩
  rw [sums.failedWorkers_eq_iff]
  intro tally member
  rcases List.getElem?_of_mem member with ⟨index, there⟩
  have inside := (List.getElem?_eq_some_iff.mp there).1
  rw [sums.length, ← sound.number] at inside
  rcases failed index inside with ⟨own, filled, because⟩
  rw [slots index tally there] at filled
  cases filled
  exact because

/-- If all workers failed, nothing is counted. -/
theorem lost_of_failedWorkers (sound : last.Sound around source workers events)
    (returned : last.summary? = some summary)
    (all : summary.tally.failedWorkers = workers) :
    summary.tally.total = 0 ∧
      ∀ tally ∈ summary.tally.workers, tally.matched = 0 ∧ tally.consumed = 0 := by
  have sums := sums_of_summary sound returned
  have lost : ∀ tally ∈ summary.tally.workers, tally.matched = 0 ∧ tally.consumed = 0 := by
    intro tally member
    rcases sums.tallied.of_mem member with ⟨number, lines, of⟩
    rw [of.eq_lost (sums.failedWorkers_eq_iff.mp all tally member)]
    exact ⟨rfl, rfl⟩
  refine ⟨Count.ext ?_, lost⟩
  rw [sums.total]
  apply List.sum_eq_zero
  intro amount member
  rcases List.mem_map.mp member with ⟨tally, among, rfl⟩
  rw [(lost tally among).1]
  rfl

/-- If a worker did not fail, the scan went on to the end of its lines. -/
theorem spared_of_failedWorkers (sound : last.Sound around source workers events)
    (returned : last.summary? = some summary) (concluded : last.Concluded)
    (unprompted : last.Unprompted) (fewer : summary.tally.failedWorkers < workers) :
    summary.cancelled = false ∧
      puts events = nonEmpty ((yielded source).take (Count.limit - 1)) ∧
      (takes events).map Prod.snd = puts events := by
  have clear : last.shared.queue.cancelled ≠ true := by
    intro flag
    have all := failedWorkers_of_allFailed sound returned (unprompted.flag flag)
    exact Nat.ne_of_lt fewer all
  have whole : summary.cancelled = false := by
    apply Bool.eq_false_iff.mpr
    exact fun cut => clear ((knows_of_summary sound returned).2.2.2 cut)
  refine ⟨whole, ?_, ?_⟩
  · rcases stopped_of_summary sound returned with ⟨result, stopped, -⟩
    rcases stopped.exists_read with ⟨read, put, -, all⟩
    rw [put, all clear]
  · rcases concluded summary returned whole with drained | failed
    · exact sound.takes_eq_puts_of_drained drained
    · have all := (sums_of_summary sound returned).failedWorkers_eq_iff.mpr failed
      exact absurd all (Nat.ne_of_lt fewer)

/-- Nobody takes a line that the source does not have. -/
theorem takes_begin_counted (sound : last.Sound around source workers events)
    (returned : last.summary? = some summary) :
    (takes events).map Prod.snd <+: nonEmpty ((yielded source).take (Count.limit - 1)) := by
  rcases stopped_of_summary sound returned with ⟨result, stopped, -⟩
  rcases stopped.exists_read with ⟨read, put, begins, -⟩
  have first : (takes events).map Prod.snd <+: puts events := by
    rw [sound.queued.items]
    exact List.prefix_append ..
  rw [put] at first
  exact first.trans (begins.filter _)

/-- Failures are contained in a scan that nobody asks to stop. -/
theorem contained_of_summary (sound : last.Sound around source workers events)
    (returned : last.summary? = some summary) (concluded : last.Concluded)
    (unprompted : last.Unprompted) :
    summary.Contained around.predicate (nonEmpty ((yielded source).take (Count.limit - 1)))
      workers events := by
  have sums := sums_of_summary sound returned
  have spared := spared_of_failedWorkers sound returned concluded unprompted
  have failed : summary.tally.failedWorkers =
      ((takes events).map Prod.snd).countP around.predicate.givesUp :=
    sums.tallied.countP_failed
  have few : summary.tally.failedWorkers ≤ workers :=
    sums.length ▸ List.countP_le_length
  have begins := takes_begin_counted sound returned
  generalize nonEmpty ((yielded source).take (Count.limit - 1)) = lines at spared begins ⊢
  have taken : summary.tally.failedWorkers ≤ lines.countP around.predicate.givesUp := by
    rw [failed]
    exact begins.sublist.countP_le
  -- A worker that did not fail has all lines taken, and then every bad line has failed a worker.
  have each (fewer : summary.tally.failedWorkers < workers) :
      summary.tally.failedWorkers = lines.countP around.predicate.givesUp := by
    rcases spared fewer with ⟨-, put, took⟩
    rw [failed, took, put]
  have number : summary.tally.failedWorkers =
      min (lines.countP around.predicate.givesUp) workers := by
    rcases Nat.lt_or_eq_of_le few with fewer | all
    · have := each fewer
      omega
    · omega
  constructor
  case failed => exact number
  case total =>
    rw [sums.total]
    exact sums.tallied.sum_matched
  case spared =>
    intro enough
    rcases spared (by omega) with ⟨whole, put, took⟩
    exact ⟨whole, put, took.trans put⟩
  case lost =>
    intro many
    exact lost_of_failedWorkers sound returned (by omega)
  case cut =>
    intro cut
    rcases Nat.lt_or_eq_of_le few with fewer | all
    · rw [(spared fewer).1] at cut
      cases cut
    · exact all

end Returned

/-- In whatever order the threads of a scan take their steps: the scan comes to an end, and if nobody
asks for shutdown, as many workers fail as there are lines on which the test gives up, up to the
number of workers.  The queue is cancelled only when all workers have failed, and notice of that is
given at most once. -/
theorem failures_are_contained {capacity workers : Count} (positive : 0 < capacity.toNat)
    (some : 0 < workers.toNat) (answer : String → Except String Bool)
    (sink : Tally → Option Fault) (source : List Feed) (still : .shutdown ∉ source) :
    (∀ (number : Nat) (last : State),
      (system (.ofAnswer answer sink)).Steps
        (State.start capacity.toNat workers.toNat source 0) number last →
      number ≤ (State.start capacity.toNat workers.toNat source 0).budget
        (.ofAnswer answer sink)) ∧
    ∀ (events : List Event) (last : State),
      (system (.ofAnswer answer sink)).Run
        (State.start capacity.toNat workers.toNat source 0) events last →
      ((∃ (moving : Thread) (pick : Nat) (next : State) (seen : List Event),
          (system (.ofAnswer answer sink)).step moving pick last = Option.some (next, seen)) ∨
        ∃ summary, last.summary? = Option.some summary) ∧
      (logged events).count abandonedNotice ≤ 1 ∧
      (last.shared.queue.cancelled = true → last.shared.slots.AllFailed workers.toNat) ∧
      ∀ summary, last.summary? = Option.some summary →
        let lines := yielded (source.map Feed.entry)
        (lines.length < Count.limit →
          summary.Contained (.ofAnswer answer) (nonEmpty lines) workers.toNat events) ∧
        (Count.limit ≤ lines.length →
          summary.Contained (.ofAnswer answer) (nonEmpty (lines.take (Count.limit - 1)))
            workers.toNat events) := by
  have alone : (Surroundings.ofAnswer answer sink).Within fun _ => False :=
    fun _ _ asked => List.not_mem_nil asked
  have only : (Surroundings.ofAnswer answer sink).ShutsDown :=
    fun line action member => (alone line action member).elim
  refine ⟨fun number last steps => length_le_budget only positive steps, ?_⟩
  intro events last run
  have sound := sound_of_run only positive run
  have unprompted := unprompted_of_run alone positive still run
  refine ⟨?_, count_notice_le_one only positive run, ?_, ?_⟩
  · rcases over_or_step_of_run only positive some run with atEnd | moves
    · exact Or.inr atEnd.coordinator
    · exact Or.inl moves
  · intro flag
    rw [← sound.number]
    exact unprompted.flag flag
  · intro summary returned lines
    have contained := contained_of_summary sound returned (concluded_of_run only positive run)
      unprompted
    refine ⟨fun fits => ?_, fun _ => contained⟩
    rwa [List.take_of_length_le (Nat.le_sub_one_of_lt fits)] at contained

/-- Two of three workers meet a bad line each, and the third takes all that is left. -/
theorem failures_are_contained_of_three_workers :
    let three : Count := ⟨3, by decide⟩
    let answer : String → Except String Bool :=
      fun line => if line = "bad" then .error "no luck" else .ok (line = "a")
    let source : List Feed :=
      [.line "a", .line "bad", .line "", .line "bad", .line "a", .line "b"]
    let first : State := .start (1 : Count).toNat three.toNat source 0
    let run := (system (.ofAnswer answer fun _ => none)).settle State.order 400 first
    ∃ summary, 0 < (1 : Count).toNat ∧ 0 < three.toNat ∧ .shutdown ∉ source ∧
      run.1.summary? = some summary ∧
      summary.Contained (.ofAnswer answer) ["a", "bad", "bad", "a", "b"] three.toNat run.2 ∧
      summary.tally.failedWorkers = 2 ∧ summary.cancelled = false := by
  intro three answer source first run
  have returned : run.1.summary?.isSome = true := by decide +kernel
  rcases Option.isSome_iff_exists.mp returned with ⟨summary, there⟩
  have reached := System.run_settle (system (.ofAnswer answer fun _ => none)) State.order 400 first
  have still : .shutdown ∉ source := by decide
  have contained := (((@failures_are_contained 1 three (by decide) (by decide) answer
    (fun _ => none) source still).2 run.2 run.1 reached).2.2.2 summary there).1 (by decide)
  have two : summary.tally.failedWorkers = 2 := contained.failed
  exact ⟨summary, by decide, by decide, still, there, contained, two,
    (contained.spared (by decide)).1⟩

end Scan

end LineTally
