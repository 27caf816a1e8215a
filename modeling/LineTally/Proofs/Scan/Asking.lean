import LineTally.Proofs.Scan.Events
import LineTally.Proofs.Scan.Outcome

/-!
# What the source has answered

The reader asks its source in order, and goes on only as long as it gets lines.  So what it says of
the source in the end is what the source answered to the requests that there have been: it fails if
one of these answers is a failure, and for nothing else but lines that cannot be counted.
-/

namespace LineTally

open Queue

/-- What a run says of a source that does this, if it is a failure. -/
def Entry.failure? : Entry → Option String
  | .failure message => some message
  | .fault _ => Scan.lostReading.error
  | .line _ | .act _ => none

namespace Reader

variable {ι : Type} [DecidableEq ι] {source : List Entry} {asks : Nat}

/-- A reader that stopped with this result relays what the source answered to so many requests. -/
def Relays (source : List Entry) (asks : Nat) (result : Except Fault Reading) : Prop :=
  result = .error .overflow ∨
    (Scan.readingOf result).error = (source.take asks).findSome? Entry.failure?

/-- So many requests of the source have led to where the reader is. -/
def Answered (source : List Entry) (asks : Nat) : Reader → Prop
  | .checking rest reading | .asking rest reading | .acting rest reading _
  | .pushing rest reading _ =>
      reading.error = none ∧ ∃ answers, source = answers ++ rest ∧ answers.length = asks ∧
        answers.findSome? Entry.failure? = none
  | .ending result _ | .finished result => Relays source asks result

theorem answered_start (source : List Entry) : (start source).Answered source 0 :=
  ⟨rfl, [], rfl, rfl, rfl⟩

/-- A reader that stops before it has met a failure relays that. -/
theorem relays_of_sound {rest : List Entry} {reading : Reading} (sound : reading.error = none)
    (answered : ∃ answers, source = answers ++ rest ∧ answers.length = asks ∧
      answers.findSome? Entry.failure? = none) : Relays source asks (.ok reading) := by
  rcases answered with ⟨answers, rfl, rfl, none⟩
  right
  rw [List.take_left, none]
  exact sound

omit [DecidableEq ι] in
/-- What the source answers now comes behind what it has answered before. -/
theorem answered_ask {queue : Queue ι String} {rest : List Entry} {reading : Reading}
    (answered : (Reader.asking rest reading).Answered source asks) :
    (ask queue rest reading).reader.Answered source (asks + 1) := by
  rcases answered with ⟨sound, answers, rfl, rfl, none⟩
  cases rest with
  | nil =>
      right
      rw [List.append_nil, List.take_of_length_le (Nat.le_succ _), none]
      exact sound
  | cons entry rest =>
      have first : (answers ++ entry :: rest).take (answers.length + 1) = answers ++ [entry] := by
        simp [List.take_append]
      have failed : (answers ++ [entry]).findSome? Entry.failure? = entry.failure? := by
        rw [List.findSome?_append, none]
        cases answer : entry.failure? <;> simp [answer]
      have further (quiet : entry.failure? = .none) :
          ∃ earlier, answers ++ entry :: rest = earlier ++ rest ∧
            earlier.length = answers.length + 1 ∧
            earlier.findSome? Entry.failure? = .none :=
        ⟨answers ++ [entry], by simp, by simp, failed.trans quiet⟩
      cases entry with
      | line text =>
          simp only [ask, receive]
          split
          next overflow => exact Or.inl (congrArg _ (Count.eq_overflow_of_succ overflow))
          next =>
            split
            · split
              next overflow => exact Or.inl (congrArg _ (Count.eq_overflow_of_succ overflow))
              next => exact ⟨sound, further rfl⟩
            · exact ⟨sound, further rfl⟩
      | failure message =>
          right
          rw [first, failed]
          rfl
      | fault message =>
          right
          rw [first, failed]
          rfl
      | act action => exact ⟨sound, further rfl⟩

/-- The answers of the source are kept account of by every step. -/
theorem Answered.step {queue : Queue ι String} {me : ι} {pick : Nat} {reader : Reader}
    {step : Step ι} (answered : reader.Answered source asks)
    (stepped : reader.step queue me pick = some step) (ground : reader.call.Grounded queue) :
    step.reader.Answered source (asks + Scan.asking reader) := by
  cases reader with
  | checking rest reading =>
      simp only [Reader.step] at stepped
      split at stepped
      · cases stepped
        exact relays_of_sound answered.1 answered.2
      · cases stepped
        exact answered
  | asking rest reading =>
      cases stepped
      exact answered_ask answered
  | acting rest reading inside =>
      rcases Option.map_eq_some_iff.mp stepped with ⟨acted, moved, rfl⟩
      cases progress : acted.progress <;> exact answered
  | pushing rest reading push =>
      rcases Option.map_eq_some_iff.mp stepped with ⟨move, moved, rfl⟩
      cases progress : move.progress with
      | «at» push => exact answered
      | returned result =>
          rcases Push.eq_of_returned moved progress with ⟨rfl, -⟩
          cases result with
          | placed =>
              simp only [afterPush]
              split
              · exact answered
              next overflow => exact Or.inl (congrArg _ (Count.eq_overflow_of_succ overflow))
          | refused reason => cases reason <;> exact relays_of_sound answered.1 answered.2
          | faulted fault => exact ground.elim
  | ending result mark =>
      rcases Option.map_eq_some_iff.mp stepped with ⟨move, moved, rfl⟩
      cases progress : move.progress <;> exact answered
  | finished result => cases stepped

end Reader

end LineTally
