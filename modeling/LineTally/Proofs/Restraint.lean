import LineTally.Proofs.Consumer
import LineTally.Proofs.Reader

/-!
# What the code around a queue may do to it

While a source or a test is asked, it may act on the queue.  If all that it may still do is allowed
now, then so it is after every step: nothing else comes to be done.
-/

namespace LineTally

open Queue

/-- What is being done. -/
def Queue.Acting.action : Acting → Action
  | .cancelling _ => .cancel
  | .shuttingDown _ => .shutdown
  | .ending _ => .endStream
  | .raisingFlag => .raiseFlag

theorem Queue.Action.action_start (action : Action) : action.start.action = action := by
  cases action <;> rfl

theorem Queue.Acting.action_eq_of_step {ι α : Type} {queue : Queue ι α} {me : ι}
    {acting next : Acting} {acted : Acted ι α} (stepped : acting.step queue me = some acted)
    (progress : acted.progress = .at next) : next.action = acting.action := by
  cases acting with
  | raisingFlag =>
      cases stepped
      cases progress
  | cancelling call | shuttingDown call | ending call =>
      rcases Option.map_eq_some_iff.mp stepped with ⟨move, -, rfl⟩
      cases there : move.progress with
      | «at» call =>
          simp only [there] at progress
          cases progress
          rfl
      | returned first =>
          simp only [there] at progress
          cases progress

/-- All that the source may still do to the queue, while it is asked, is allowed. -/
def Reader.Within (allowed : Action → Prop) : Reader → Prop
  | .checking rest _ | .asking rest _ | .pushing rest _ _ =>
      ∀ action, Entry.act action ∈ rest → allowed action
  | .acting rest _ inside =>
      (∀ action, Entry.act action ∈ rest → allowed action) ∧ allowed inside.action
  | .ending .. | .finished _ => True

/-- All that the test may still do to the queue, while it is asked, is allowed. -/
def Consumer.Within (allowed : Action → Prop) : Consumer → Prop
  | .testing _ _ actions => ∀ action ∈ actions, allowed action
  | .acting _ _ actions inside => (∀ action ∈ actions, allowed action) ∧ allowed inside.action
  | .popping .. | .finished _ => True

namespace Reader

variable {ι : Type} [DecidableEq ι] {allowed : Action → Prop}

theorem within_receive {rest : List Entry} {reading : Reading} {text : String}
    (only : ∀ action, Entry.act action ∈ rest → allowed action) :
    (receive rest reading text).Within allowed := by
  unfold receive
  split
  · trivial
  · dsimp only
    split
    · split
      · trivial
      · exact only
    · exact only

theorem within_afterPush {rest : List Entry} {reading : Reading} {result : PushResult}
    (only : ∀ action, Entry.act action ∈ rest → allowed action) :
    (afterPush rest reading result).1.Within allowed := by
  unfold afterPush
  split
  · split
    · exact only
    · trivial
  · trivial
  · trivial
  · trivial

theorem Within.step {queue : Queue ι String} {me : ι} {pick : Nat} {reader : Reader}
    {step : Step ι} (within : reader.Within allowed)
    (stepped : reader.step queue me pick = some step) : step.reader.Within allowed := by
  cases reader with
  | checking rest reading =>
      simp only [Reader.step] at stepped
      split at stepped
      · cases stepped
        trivial
      · cases stepped
        exact within
  | asking rest reading =>
      cases stepped
      cases rest with
      | nil => trivial
      | cons entry rest =>
          have only : ∀ action, Entry.act action ∈ rest → allowed action :=
            fun action member => within action (List.mem_cons_of_mem _ member)
          cases entry with
          | line text => exact within_receive only
          | failure message => trivial
          | fault message => trivial
          | act action =>
              refine ⟨only, ?_⟩
              rw [action.action_start]
              exact within action (by simp)
  | acting rest reading inside =>
      rcases Option.map_eq_some_iff.mp stepped with ⟨acted, moved, rfl⟩
      cases progress : acted.progress with
      | «at» next =>
          refine ⟨within.1, ?_⟩
          rw [Acting.action_eq_of_step moved progress]
          exact within.2
      | returned first => exact within.1
  | pushing rest reading push =>
      rcases Option.map_eq_some_iff.mp stepped with ⟨move, moved, rfl⟩
      cases progress : move.progress with
      | «at» next => exact within
      | returned result => exact within_afterPush within
  | ending result mark =>
      rcases Option.map_eq_some_iff.mp stepped with ⟨move, moved, rfl⟩
      cases progress : move.progress <;> trivial
  | finished result => cases stepped

end Reader

namespace Consumer

variable {ι : Type} [DecidableEq ι] {allowed : Action → Prop}

theorem Within.step {predicate : Predicate} {index : Count} {queue : Queue ι String} {me : ι}
    {pick : Nat} {consumer : Consumer} {step : Step ι}
    (only : ∀ line, ∀ action ∈ (predicate line).actions, allowed action)
    (within : consumer.Within allowed)
    (stepped : consumer.step predicate index queue me pick = some step) :
    step.consumer.Within allowed := by
  cases consumer with
  | popping counts pop =>
      rcases Option.map_eq_some_iff.mp stepped with ⟨move, moved, rfl⟩
      cases progress : move.progress with
      | «at» next => trivial
      | returned result =>
          cases result with
          | error fault => trivial
          | ok found =>
              cases found with
              | none => trivial
              | some line => exact only line
  | testing counts line actions =>
      cases actions with
      | nil =>
          cases stepped
          unfold judge
          split
          · trivial
          · split <;> trivial
      | cons action actions =>
          cases stepped
          refine ⟨fun other member => within other (List.mem_cons_of_mem _ member), ?_⟩
          rw [action.action_start]
          exact within action (by simp)
  | acting counts line actions inside =>
      rcases Option.map_eq_some_iff.mp stepped with ⟨acted, moved, rfl⟩
      cases progress : acted.progress with
      | «at» next =>
          refine ⟨within.1, ?_⟩
          rw [Acting.action_eq_of_step moved progress]
          exact within.2
      | returned first => exact within.1
  | finished tally => cases stepped

end Consumer

end LineTally
