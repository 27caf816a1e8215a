import LineTally.Proofs.Scan.Aggregation
import LineTally.Proofs.Scan.Exactness
import LineTally.Proofs.Scan.Leftovers

/-!
# Scans that were not cut short

Somebody may ask for shutdown and yet come too late: when the coordinator reads the flag before it
is set, the scan says that it was not cut short.  Then nobody else has seen the flag either, since
all the others had stopped by then, and the scan has come to the same as one that nobody disturbs.
A scan that was cut short has counted a beginning of its lines.
-/

namespace LineTally

/-- A reader that did not stop for the flag would have stopped without it. -/
theorem Reader.Stopped.unflagged {flagged closed : Prop} {source : List Entry} {put : List String}
    {result : Except Fault Reading} (stopped : Reader.Stopped flagged closed source put result)
    (uncut : ∀ reading, result = .ok reading → reading.cancelled = false) :
    Reader.Stopped False closed source put result := by
  cases stopped with
  | exhausted close of => exact .exhausted close of
  | failed close of => exact .failed close of
  | gaveUp close fits => exact .gaveUp close fits
  | overflowed lines full => exact .overflowed lines full
  | flagged | cancelled => exact absurd (uncut _ rfl) Bool.noConfusion
  | closed end_ lines some of => exact .closed end_ lines some of

/-- Only a reader that saw the flag says that the queue was cancelled. -/
theorem Reader.Stopped.cancelled_eq_false {flagged closed : Prop} {source : List Entry}
    {put : List String} {reading : Reading} (clear : ¬ flagged)
    (stopped : Reader.Stopped flagged closed source put (.ok reading)) :
    reading.cancelled = false := by
  cases stopped with
  | exhausted close of | failed close of | closed _ _ _ of => exact of.going
  | flagged flag | cancelled flag => exact absurd flag clear

namespace Scan

/-! ## The flag comes too late -/

/-- If the scan was not cut short, its reader did not stop for the flag. -/
def State.Uncut (state : State) : Prop :=
  ∀ summary, state.summary? = some summary → summary.cancelled = false →
    ∀ reading, state.reader = .finished (.ok reading) → reading.cancelled = false

section Step

variable {around : Surroundings} {source : List Entry} {workers : Nat} {state next : State}
variable {thread : Thread} {before events : List Event}

/-- A reader that has stopped does not go on. -/
theorem Moved.reader_eq (moved : Moved around state thread next events)
    {result : Except Fault Reading} (finished : state.reader = .finished result) :
    next.reader = state.reader := by
  cases moved with
  | reader stepped =>
      rw [finished] at stepped
      cases stepped
  | worker | requester | coordinator => rfl

theorem State.Uncut.step (uncut : state.Uncut) (sound : state.Sound around source workers before)
    (after : next.Sound around source workers (before ++ events))
    (moved : Moved around state thread next events) : next.Uncut := by
  intro summary returned whole reading stopped
  rcases moved.summary returned with already | ⟨_, closing, cut, shared⟩
  · rcases (knows_of_summary sound already).1 with ⟨result, finished, -⟩
    exact uncut summary already whole reading (moved.reader_eq finished ▸ stopped)
  · have account := after.queued.reader
    have clear : ¬ next.shared.queue.cancelled = true := by
      rw [shared, ← cut, whole]
      exact Bool.false_ne_true
    rw [stopped] at account
    exact Reader.Stopped.cancelled_eq_false clear account

end Step

theorem uncut_of_run {around : Surroundings} (only : around.ShutsDown) {capacity workers : Count}
    (positive : 0 < capacity.toNat) {source : List Feed} {requests : Nat} {events : List Event}
    {last : State}
    (run : (system around).Run (State.start capacity.toNat workers.toNat source requests)
      events last) : last.Uncut := by
  induction run with
  | refl => exact nofun
  | tail thread pick before stepped ih =>
      exact ih.step (sound_of_run only positive before)
        (sound_of_run only positive (before.tail thread pick stepped)) (moved_of_step stepped)

/-! ## What the summary says -/

section Returned

variable {around : Surroundings} {source : List Entry} {workers : Nat} {events : List Event}
variable {last : State} {summary : Summary}

/-- What a scan counts is a beginning of the lines of its source. -/
theorem exists_counted (sound : last.Sound around source workers events)
    (answers : ∀ line, around.predicate.Answers line)
    (returned : last.summary? = some summary) :
    ∃ seen, seen <+: yielded source ∧
      summary.tally.total.toNat = (nonEmpty seen).countP around.predicate.accepts := by
  rcases List.prefix_filter_iff.mp (takes_begin sound) with ⟨seen, begins, same⟩
  refine ⟨seen, begins, ?_⟩
  rw [(tally_of_answers sound answers returned).2.1, same]
  rfl

/-- If the scan was not cut short, all lines that were put were taken. -/
theorem takes_eq_puts_of_uncut (sound : last.Sound around source workers events)
    (concluded : last.Concluded) (some : 0 < workers)
    (answers : ∀ line, around.predicate.Answers line)
    (returned : last.summary? = Option.some summary) (whole : summary.cancelled = false) :
    (takes events).map Prod.snd = puts events := by
  rcases concluded summary returned whole with drained | failed
  · exact sound.takes_eq_puts_of_drained drained
  · have inside : 0 < summary.tally.workers.length := by
      rwa [(sums_of_summary sound returned).length]
    have first := List.getElem_mem inside
    have fine := (tally_of_answers sound answers returned).2.2 _ first
    rw [failed _ first] at fine
    cases fine

/-- A scan that was not cut short comes to the same as one that nobody disturbs. -/
theorem exact_of_uncut {texts : List String} {failure : Option String}
    (sound : last.Sound around ((Feed.ofLines texts failure).map Feed.entry) workers events)
    (concluded : last.Concluded) (uncut : last.Uncut) (some : 0 < workers)
    (answers : ∀ line, around.predicate.Answers line)
    (returned : last.summary? = Option.some summary) (whole : summary.cancelled = false) :
    (texts.length < Count.limit → summary.Exact around.predicate.accepts texts failure) ∧
      (Count.limit ≤ texts.length → summary.Overrun around.predicate.accepts texts) := by
  have all := takes_eq_puts_of_uncut sound concluded some answers returned whole
  rcases tally_of_answers sound answers returned with ⟨consumed, total, fine⟩
  have failed : summary.tally.failedWorkers = 0 :=
    List.countP_eq_zero.mpr fun tally member => by simp [fine tally member]
  have account := sound.queued.reader
  rcases (knows_of_summary sound returned).1 with ⟨result, finished, linesRead, produced, error⟩
  rw [finished] at account
  have stopped := Reader.Stopped.unflagged account fun reading same =>
    uncut summary returned whole reading (finished.trans (congrArg Reader.finished same))
  rw [all] at total
  rw [← List.length_map, all] at consumed
  exact exact_of_stopped id stopped linesRead produced error consumed total failed whole

end Returned

/-! ## Whatever the schedule -/

end Scan

/-- The summary says what there is to count in these lines, unless the scan was cut short, and else
what there is to count in the first of them; and it says that the source failed if it was asked for
more than its lines. -/
structure Summary.Faithful (matches? : String → Bool) (texts : List String)
    (failure : Option String) (asked : Nat) (summary : Summary) : Prop where
  whole : summary.cancelled = false →
    (texts.length < Count.limit → summary.Exact matches? texts failure) ∧
      (Count.limit ≤ texts.length → summary.Overrun matches? texts)
  counted : ∃ seen, seen <+: texts ∧ summary.tally.total.toNat = (nonEmpty seen).countP matches?
  failed : failure.isSome = true → texts.length < asked → summary.sourceError.isSome = true

namespace Scan

section Run

variable {around : Surroundings} {capacity workers : Count} {texts : List String}
variable {failure : Option String} {requests : Nat} {events : List Event} {last : State}
variable {summary : Summary}

/-- A source that is asked for more than its lines answers with its failure. -/
theorem isSome_sourceError_of_aggregated
    (aggregated : summary.Aggregated workers.toNat ((Feed.ofLines texts failure).map Feed.entry)
      events) (fails : failure.isSome = true) (asked : texts.length < asks events) :
    summary.sourceError.isSome = true := by
  rcases Option.isSome_iff_exists.mp fails with ⟨message, rfl⟩
  rcases aggregated.failure with error | ⟨-, error⟩
  · have all : ((Feed.ofLines texts (some message)).map Feed.entry).take (asks events) =
        texts.map .line ++ [.failure message] := by
      rw [List.take_of_length_le]
      · simp [Feed.ofLines, Feed.entry]
      · simpa [Feed.ofLines] using Nat.succ_le_of_lt asked
    have silent : (texts.map Entry.line).findSome? Entry.failure? = none := by
      simp [Entry.failure?]
    rw [error, all, List.findSome?_append, silent]
    rfl
  · rw [error]
    rfl

/-- A scan whose test always answers and asks for nothing is faithful, however often others ask for
shutdown; if nobody does, it is not cut short. -/
theorem faithful_of_run (alone : around.Within fun _ => False)
    (answers : ∀ line, around.predicate.Answers line) (positive : 0 < capacity.toNat)
    (some : 0 < workers.toNat)
    (run : (system around).Run
      (State.start capacity.toNat workers.toNat (Feed.ofLines texts failure) requests) events last)
    (returned : last.summary? = Option.some summary) :
    summary.Faithful around.predicate.accepts texts failure (asks events) ∧
      (requests = 0 → summary.cancelled = false) := by
  have only : around.ShutsDown := fun line action member => (alone line action member).elim
  have sound := sound_of_run only positive run
  refine ⟨⟨?_, ?_, ?_⟩, ?_⟩
  · exact exact_of_uncut sound (concluded_of_run only positive run)
      (uncut_of_run only positive run) some answers returned
  · have counted := exists_counted sound answers returned
    rwa [Feed.yielded_ofLines] at counted
  · exact isSome_sourceError_of_aggregated
      ((told_of_run only positive run).aggregated sound some returned)
  · rintro rfl
    have still := Feed.shutdown_not_mem_ofLines texts failure
    have undisturbed := undisturbed_of_run alone answers positive still run
    exact (tally_of_undisturbed sound undisturbed some answers returned).2.2.2

end Run

end Scan

end LineTally
