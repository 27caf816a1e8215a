import LineTally.Consumer
import LineTally.Proofs.Count
import LineTally.Proofs.Queue.Wakeups

/-!
# What a consumer counted

A consumer is related to the lines that it has taken from the queue.  Between taking a line and
counting it, the line is in its hands; at the end either all lines that it took are counted, or it
gave up on the last of them.
-/

namespace LineTally

/-- Whether a line counts as a match. -/
def Predicate.accepts (predicate : Predicate) (line : String) : Bool :=
  match (predicate line).answer with
  | .ok matches? => matches?
  | .error _ => false

/-- The predicate answers on a line. -/
def Predicate.Answers (predicate : Predicate) (line : String) : Prop :=
  ∃ matches?, (predicate line).answer = .ok matches?

/-- The predicate gives up on a line. -/
def Predicate.givesUp (predicate : Predicate) (line : String) : Bool :=
  match (predicate line).answer with
  | .ok _ => false
  | .error _ => true

theorem Predicate.Answers.givesUp_eq_false {predicate : Predicate} {line : String}
    (answers : predicate.Answers line) : predicate.givesUp line = false := by
  rcases answers with ⟨matches?, answer⟩
  simp [givesUp, answer]

theorem Predicate.accepts_eq {predicate : Predicate} {line : String} {matches? : Bool}
    (answer : (predicate line).answer = .ok matches?) : predicate.accepts line = matches? := by
  simp [accepts, answer]

/-- These are the counts of these lines. -/
structure Counts.Of (predicate : Predicate) (lines : List String) (counts : Counts) : Prop where
  answers : ∀ line ∈ lines, predicate.Answers line
  matched : counts.matched.toNat = lines.countP predicate.accepts
  consumed : counts.consumed.toNat = lines.length

/-- This is the tally of a worker that took these lines. -/
inductive WorkerTally.Of (predicate : Predicate) (index : Count) :
    List String → WorkerTally → Prop where
  /-- The predicate answered on every line. -/
  | counted {lines : List String} {counts : Counts} (of : counts.Of predicate lines) :
      WorkerTally.Of predicate index lines {
        index, matched := counts.matched, consumed := counts.consumed, failed := false }
  /-- The predicate gave up on the last line. -/
  | gaveUp {lines : List String} {line message : String}
      (answers : ∀ earlier ∈ lines, predicate.Answers earlier)
      (failed : (predicate line).answer = .error message) :
      WorkerTally.Of predicate index (lines ++ [line]) (.lost index)

namespace Counts

variable {predicate : Predicate} {lines : List String} {counts : Counts}

theorem Of.start (predicate : Predicate) : Of predicate [] {} where
  answers := by simp
  matched := rfl
  consumed := rfl

/-- Counting one more line of fewer than there are counts does not fault. -/
theorem Of.add (of : counts.Of predicate lines) {line : String} {matches? : Bool}
    (answer : (predicate line).answer = .ok matches?)
    (fits : lines.length + 1 < Count.limit) :
    ∃ next, counts.add matches? = .ok next ∧ next.Of predicate (lines ++ [line]) := by
  have matchedFits : counts.matched.toNat + 1 < Count.limit := by
    have := lines.countP_le_length (p := predicate.accepts)
    rw [of.matched]
    omega
  rcases Count.succ_eq_ok (of.consumed ▸ fits) with ⟨consumed, consumedEq, consumedNat⟩
  rcases Count.succ_eq_ok matchedFits with ⟨matched, matchedEq, matchedNat⟩
  have answers : ∀ earlier ∈ lines ++ [line], predicate.Answers earlier := by
    intro earlier member
    rcases List.mem_append.mp member with before | last
    · exact of.answers earlier before
    · rw [List.mem_singleton.mp last]
      exact ⟨matches?, answer⟩
  have accepted := Predicate.accepts_eq answer
  cases matches? with
  | true =>
      refine ⟨⟨matched, consumed⟩, by simp [Counts.add, matchedEq, consumedEq], answers, ?_, ?_⟩
      · simp [List.countP_append, accepted, matchedNat, of.matched]
      · simp [consumedNat, of.consumed]
  | false =>
      refine ⟨⟨counts.matched, consumed⟩, by simp [Counts.add, consumedEq], answers, ?_, ?_⟩
      · simp [List.countP_append, accepted, of.matched]
      · simp [consumedNat, of.consumed]

end Counts

namespace Consumer

open Queue

variable {ι : Type} [DecidableEq ι]

/-! ## The consumer at the queue -/

/-- Where a consumer is with regard to the queue. -/
def call : Consumer → Call String
  | .popping _ pop => .pop pop
  | .acting _ _ _ inside => inside.call
  | .testing .. | .finished _ => .away

omit [DecidableEq ι] in
/-- Judging a line does not touch the queue. -/
theorem idle_judge (queue : Queue ι String) (index : Count) (counts : Counts)
    (answer : Except String Bool) :
    (judge queue index counts answer).queue = queue ∧
      (judge queue index counts answer).transfer = none ∧
      (judge queue index counts answer).consumer.call.Idle := by
  cases answer with
  | error message => exact ⟨rfl, rfl, .away⟩
  | ok matches? =>
      simp only [judge]
      split
      · exact ⟨rfl, rfl, .away⟩
      · exact ⟨rfl, rfl, .pop⟩

omit [DecidableEq ι] in
theorem idle_afterPop (predicate : Predicate) (queue : Queue ι String) (index : Count)
    (counts : Counts) (result : PopResult String) :
    (afterPop predicate queue index counts result).queue = queue ∧
      (afterPop predicate queue index counts result).consumer.call.Idle := by
  cases result with
  | error fault => exact ⟨rfl, .away⟩
  | ok found =>
      cases found with
      | none => exact ⟨rfl, .away⟩
      | some line => exact ⟨rfl, .away⟩

theorem advances {predicate : Predicate} {index : Count} {queue : Queue ι String} {me : ι}
    {pick : Nat} {consumer : Consumer} {step : Step ι}
    (stepped : consumer.step predicate index queue me pick = some step) :
    Advances me queue consumer.call step.transfer step.queue step.consumer.call := by
  cases consumer with
  | popping counts pop =>
      rcases Option.map_eq_some_iff.mp stepped with ⟨move, moved, rfl⟩
      have turn := Pop.turn moved
      cases progress : move.progress with
      | «at» pop =>
          rw [progress] at turn
          exact turn.advances
      | returned result =>
          rw [progress] at turn
          rcases idle_afterPop predicate move.queue index counts result with ⟨same, idle⟩
          dsimp only
          rw [same]
          exact turn.advances_to idle
  | testing counts line actions =>
      cases actions with
      | nil =>
          cases stepped
          rcases idle_judge queue index counts (predicate line).answer with
            ⟨same, nothing, idle⟩
          rw [same, nothing]
          exact Call.Idle.away.advances idle
      | cons action actions =>
          cases stepped
          exact Call.Idle.away.advances action.start_idle
  | acting counts line actions inside =>
      rcases Option.map_eq_some_iff.mp stepped with ⟨acted, moved, rfl⟩
      have turn := Acting.turn moved
      cases progress : acted.progress with
      | «at» inside =>
          rw [progress] at turn
          exact turn.advances
      | returned first =>
          rw [progress] at turn
          exact turn.advances_to .away
  | finished tally => cases stepped

/-- A consumer without a step waits in a call, or has finished. -/
theorem waits {predicate : Predicate} {index : Count} {queue : Queue ι String} {me : ι}
    {pick : Nat} {consumer : Consumer}
    (stuck : consumer.step predicate index queue me pick = none) :
    consumer.call.Waits queue me ∨ ∃ tally, consumer = .finished tally := by
  cases consumer with
  | popping counts pop => exact Or.inl (Pop.waits (Option.map_eq_none_iff.mp stuck))
  | testing counts line actions => cases actions <;> cases stuck
  | acting counts line actions inside =>
      exact Or.inl (Acting.waits (Option.map_eq_none_iff.mp stuck))
  | finished tally => exact Or.inr ⟨tally, rfl⟩

/-! ## The consumer and its lines -/

/-- Where a consumer is that has taken these lines. -/
def Account (predicate : Predicate) (index : Count) (taken : List String) : Consumer → Prop
  | .popping counts pop => ∃ lines, taken = lines ++ pop.taken ∧ counts.Of predicate lines
  | .testing counts line _ | .acting counts line _ _ =>
      ∃ lines, taken = lines ++ [line] ∧ counts.Of predicate lines
  | .finished tally => tally.Of predicate index taken

theorem account_start (predicate : Predicate) (index : Count) :
    start.Account predicate index [] :=
  ⟨[], rfl, .start predicate⟩

/-- A step keeps account of what is taken, as long as pops do not fault and there are not more
lines than counts. -/
theorem Account.step {predicate : Predicate} {index : Count} {queue : Queue ι String} {me : ι}
    {pick : Nat} {consumer : Consumer} {step : Step ι} {taken : List String}
    (account : consumer.Account predicate index taken)
    (stepped : consumer.step predicate index queue me pick = some step)
    (fits : taken.length < Count.limit)
    (sound : ∀ fault, consumer.call ≠ .pop (.leaving (.error fault))) :
    step.consumer.Account predicate index (taken ++ departed step.transfer) ∧
      entered step.transfer = [] := by
  cases consumer with
  | popping counts pop =>
      rcases account with ⟨lines, rfl, of⟩
      rcases Option.map_eq_some_iff.mp stepped with ⟨move, moved, rfl⟩
      rcases Pop.step_taken moved with
        ⟨nothing, ⟨next, progress, more⟩ | ⟨result, rfl, progress, none⟩⟩
      · rw [progress]
        exact ⟨⟨lines, by simp [more], of⟩, nothing⟩
      · rw [progress]
        refine ⟨?_, nothing⟩
        cases result with
        | error fault => exact absurd rfl (sound fault)
        | ok found =>
            simp only [none, List.append_nil]
            cases found with
            | none =>
                simp only [Pop.taken, PopResult.taken, List.append_nil]
                exact WorkerTally.Of.counted of
            | some line => exact ⟨lines, rfl, of⟩
  | testing counts line actions =>
      rcases account with ⟨lines, rfl, of⟩
      cases actions with
      | nil =>
          cases stepped
          cases answer : (predicate line).answer with
          | error message =>
              simp only [judge, fail, departed, List.append_nil]
              exact ⟨WorkerTally.Of.gaveUp of.answers answer, rfl⟩
          | ok matches? =>
              rcases of.add answer (by simpa using fits) with ⟨next, added, of⟩
              simp only [judge, added]
              exact ⟨⟨lines ++ [line], rfl, of⟩, rfl⟩
      | cons action actions =>
          cases stepped
          exact ⟨⟨lines, by simp [departed], of⟩, rfl⟩
  | acting counts line actions inside =>
      rcases account with ⟨lines, rfl, of⟩
      rcases Option.map_eq_some_iff.mp stepped with ⟨acted, moved, rfl⟩
      cases progress : acted.progress <;> exact ⟨⟨lines, by simp [departed], of⟩, rfl⟩
  | finished tally => cases stepped

end Consumer

end LineTally
