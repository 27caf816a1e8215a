import LineTally.Proofs.Restraint
import LineTally.Proofs.Scan.Calls

/-!
# What may be done to the queue of a scan

The source, the test and everybody else may ask for shutdown, and do nothing else to the queue.  So
nobody sets the flag without waking the sleepers, and nobody but the reader marks the end of the
stream.
-/

namespace LineTally

open Queue

/-- The call of a thread that asks for shutdown. -/
theorem Queue.Acting.call_eq_cancel (α : Type) {acting : Acting}
    (shuts : acting.action = .shutdown) : ∃ place, (acting.call : Call α) = .cancel place := by
  cases acting with
  | shuttingDown call => exact ⟨call, rfl⟩
  | cancelling | ending | raisingFlag => cases shuts

theorem Reader.Within.call {reader : Reader} (shuts : reader.Within (· = .shutdown)) :
    reader.call ≠ .raiseFlag ∧
      ∀ place, reader.call = .endStream place → ∃ result, reader = .ending result place := by
  cases reader with
  | acting rest reading inside =>
      rcases Acting.call_eq_cancel String shuts.2 with ⟨place, there⟩
      simp [Reader.call, there]
  | ending result mark => simp [Reader.call]
  | checking | asking | pushing | finished => simp [Reader.call]

theorem Consumer.Within.call {consumer : Consumer} (shuts : consumer.Within (· = .shutdown)) :
    consumer.call ≠ .raiseFlag ∧ (∀ place, consumer.call ≠ .endStream place) ∧
      ∀ push, consumer.call ≠ .push push := by
  cases consumer with
  | acting counts line actions inside =>
      rcases Acting.call_eq_cancel String shuts.2 with ⟨place, there⟩
      simp [Consumer.call, there]
  | popping | testing | finished => simp [Consumer.call]

/-! ## The end of the stream -/

/-- The reader has marked the end of the stream. -/
def Reader.HasEnded : Reader → Prop
  | .ending _ (.leaving _) | .finished _ => True
  | _ => False

namespace Reader

variable {ι : Type} [DecidableEq ι]

theorem hasEnded_receive {rest : List Entry} {reading : Reading} {text : String} :
    ¬ (receive rest reading text).HasEnded := by
  unfold receive
  split
  · exact id
  · dsimp only
    split
    · split <;> exact id
    · exact id

theorem hasEnded_afterPush {rest : List Entry} {reading : Reading} {result : PushResult} :
    ¬ (afterPush rest reading result).1.HasEnded := by
  unfold afterPush
  split
  · split <;> exact id
  · exact id
  · exact id
  · exact id

/-- The reader has marked the end of the stream exactly when it has ended, if nobody else does. -/
theorem ended_iff_of_step {queue : Queue ι String} {me : ι} {pick : Nat} {reader : Reader}
    {step : Step ι} (shuts : reader.Within (· = .shutdown))
    (stepped : reader.step queue me pick = some step)
    (ended : queue.ended = true ↔ reader.HasEnded) :
    step.queue.ended = true ↔ step.reader.HasEnded := by
  have same := (Reader.advances stepped).ended_eq
  cases reader with
  | checking rest reading =>
      rw [same (by simp [Reader.call]), ended]
      simp only [Reader.step] at stepped
      split at stepped <;> cases stepped <;> exact Iff.rfl
  | asking rest reading =>
      rw [same (by simp [Reader.call]), ended]
      cases stepped
      cases rest with
      | nil => exact Iff.rfl
      | cons entry rest =>
          cases entry with
          | line text => exact iff_of_false id hasEnded_receive
          | failure | fault | act => exact Iff.rfl
  | acting rest reading inside =>
      rcases Acting.call_eq_cancel String shuts.2 with ⟨place, there⟩
      rw [same (by simp [Reader.call, there]), ended]
      rcases Option.map_eq_some_iff.mp stepped with ⟨acted, moved, rfl⟩
      cases progress : acted.progress <;> exact Iff.rfl
  | pushing rest reading push =>
      rw [same (by simp [Reader.call]), ended]
      rcases Option.map_eq_some_iff.mp stepped with ⟨move, moved, rfl⟩
      cases progress : move.progress with
      | «at» next => exact Iff.rfl
      | returned result => exact iff_of_false id hasEnded_afterPush
  | ending result mark =>
      rcases Option.map_eq_some_iff.mp stepped with ⟨move, moved, rfl⟩
      cases mark with
      | arriving =>
          rcases Option.map_eq_some_iff.mp moved with ⟨next, locked, rfl⟩
          rw [(lock?_eq_some locked).2]
          exact ended
      | marking =>
          simp only [EndStream.step] at moved
          split at moved
          next already =>
            cases moved
            exact iff_of_true already trivial
          next =>
            cases moved
            exact iff_of_true rfl trivial
      | leaving first =>
          cases moved
          exact ended
  | finished result => cases stepped

end Reader

namespace Scan

/-- All that the test does to the queue is allowed. -/
def Surroundings.Within (allowed : Action → Prop) (around : Surroundings) : Prop :=
  ∀ line, ∀ action ∈ (around.predicate line).actions, allowed action

/-- All that the code around a scan does to its queue is to ask for shutdown. -/
def Surroundings.ShutsDown (around : Surroundings) : Prop :=
  around.Within (· = .shutdown)

/-- What is around a scan whose lines are tested in this way. -/
def Surroundings.ofTest (test : Test) (sink : Tally → Option Fault) : Surroundings :=
  { predicate := fun line => (test line).verdict, sink }

theorem Surroundings.ofTest_shutsDown (test : Test) (sink : Tally → Option Fault) :
    (ofTest test sink).ShutsDown := by
  intro line action member
  exact List.eq_of_mem_replicate member

/-- All that a worker may still do to the queue in its test is allowed. -/
def Worker.Within (allowed : Action → Prop) : Worker → Prop
  | .consuming consumer => consumer.Within allowed
  | _ => True

/-- All that somebody still does to the queue is allowed. -/
def Requester.Within (allowed : Action → Prop) : Requester → Prop
  | .asking inside => allowed inside.action
  | .satisfied => True

/-- All that may be done to the queue of a scan from outside is allowed. -/
structure State.Within (allowed : Action → Prop) (state : State) : Prop where
  reader : state.reader.Within allowed
  workers : ∀ (index : Nat) (worker : Worker), state.workers[index]? = some worker →
    worker.Within allowed
  requesters : ∀ (index : Nat) (requester : Requester),
    state.requesters[index]? = some requester → requester.Within allowed

theorem Worker.Turn.within {around : Surroundings} {shared next : Shared} {number : Count}
    {worker after : Worker} {events : List Event} {allowed : Action → Prop}
    (only : around.Within allowed) (within : worker.Within allowed)
    (turn : Worker.Turn around shared number worker next after events) :
    after.Within allowed := by
  have arrives := afterRendezvous_of (·.Within allowed) trivial trivial number.toNat
  cases turn with
  | consumes stepped => exact Consumer.Within.step only within stepped
  | meets | resumes => exact arrives _
  | _ => trivial

/-- Nothing else comes to be done. -/
theorem State.Within.step {around : Surroundings} {state next : State} {thread : Thread}
    {events : List Event} {allowed : Action → Prop} (only : around.Within allowed)
    (within : state.Within allowed) (moved : Moved around state thread next events) :
    next.Within allowed := by
  cases moved with
  | reader stepped => exact ⟨within.reader.step stepped, within.workers, within.requesters⟩
  | worker number there stepped =>
      refine ⟨within.reader, ?_, within.requesters⟩
      apply forall_of_set
      · exact (Worker.turn stepped).within only (within.workers _ _ there)
      · exact fun index worker _ => within.workers index worker
  | @requester index inside acted there stepped =>
      refine ⟨within.reader, within.workers, ?_⟩
      apply forall_of_set
      · have mine : allowed inside.action := within.requesters _ _ there
        cases progress : acted.progress with
        | «at» next =>
            rw [← Acting.action_eq_of_step stepped progress] at mine
            exact mine
        | returned first => trivial
      · exact fun index requester _ => within.requesters index requester
  | coordinator stepped => exact ⟨within.reader, within.workers, within.requesters⟩

/-- What may be done during a scan is what its source does, and shutdown if anybody asks for it. -/
theorem State.Within.start {allowed : Action → Prop} (capacity workers : Nat)
    {source : List Feed} {requests : Nat}
    (asked : .shutdown ∈ source ∨ requests ≠ 0 → allowed .shutdown) :
    (State.start capacity workers source requests).Within allowed where
  reader := by
    intro action member
    rcases List.mem_map.mp member with ⟨feed, given, same⟩
    cases feed with
    | shutdown =>
        cases same
        exact asked (Or.inl given)
    | line | failure | fault => cases same
  workers index worker there := by
    have consuming := List.eq_of_mem_replicate (List.mem_of_getElem? there)
    rw [consuming]
    trivial
  requesters index requester there := by
    have asking := List.eq_of_mem_replicate (List.mem_of_getElem? there)
    rw [asking]
    refine asked (Or.inr ?_)
    rintro rfl
    cases there

/-- When nobody may do anything to the queue from outside, only a worker cancels it. -/
theorem State.Within.cancelling {state : State} {thread : Thread} {place : Cancel}
    (alone : state.Within fun _ => False) (cancels : state.calls thread = .cancel place) :
    ∃ index, thread = .worker index ∧ state.workers[index]? = some (.cancelling place) := by
  cases thread with
  | reader =>
      have alone := alone.reader
      rw [calls_reader] at cancels
      generalize state.reader = reader at alone cancels
      cases reader with
      | acting => exact alone.2.elim
      | checking | asking | pushing | ending | finished => cases cancels
  | worker index =>
      cases there : state.workers[index]? with
      | none => simp [State.calls, there] at cancels
      | some worker =>
          rw [calls_worker there] at cancels
          have alone := alone.workers index worker there
          cases worker with
          | cancelling =>
              cases cancels
              exact ⟨index, rfl, there⟩
          | consuming consumer =>
              cases consumer with
              | acting => exact alone.2.elim
              | popping | testing | finished => cases cancels
          | _ => cases cancels
  | requester index =>
      cases there : state.requesters[index]? with
      | none => simp [State.calls, there] at cancels
      | some requester =>
          rw [calls_requester there] at cancels
          have alone := alone.requesters index requester there
          cases requester with
          | asking inside => exact alone.elim
          | satisfied => cases cancels
  | coordinator => cases cancels

/-- The threads of a scan keep to what they may do, and only the reader ends the stream. -/
structure State.Tame (state : State) : Prop where
  within : state.Within (· = .shutdown)
  ended : state.shared.queue.ended = true ↔ state.reader.HasEnded

theorem Worker.Within.call {worker : Worker} (shuts : worker.Within (· = .shutdown)) :
    worker.call ≠ .raiseFlag ∧ (∀ place, worker.call ≠ .endStream place) ∧
      ∀ push, worker.call ≠ .push push := by
  cases worker with
  | consuming consumer => exact Consumer.Within.call shuts
  | _ => simp [Worker.call]

theorem Requester.Within.call {requester : Requester}
    (shuts : requester.Within (· = .shutdown)) :
    requester.call ≠ .raiseFlag ∧ (∀ place, requester.call ≠ .endStream place) ∧
      ∀ push, requester.call ≠ .push push := by
  cases requester with
  | asking inside =>
      rcases Acting.call_eq_cancel String shuts with ⟨place, there⟩
      simp [Requester.call, there]
  | satisfied => simp [Requester.call]

namespace State.Tame

variable {around : Surroundings} {state next : State} {thread : Thread} {events : List Event}

/-- No thread sets the flag alone, and no thread but the reader marks the end of the stream or
pushes lines. -/
theorem calls (tame : state.Tame) (thread : Thread) :
    state.calls thread ≠ .raiseFlag ∧ (thread ≠ .reader →
      (∀ place, state.calls thread ≠ .endStream place) ∧
        ∀ push, state.calls thread ≠ .push push) := by
  cases thread with
  | reader => exact ⟨tame.within.reader.call.1, fun other => absurd rfl other⟩
  | worker index =>
      cases there : state.workers[index]? with
      | none => simp [State.calls, there]
      | some worker =>
          rw [calls_worker there]
          have call := (tame.within.workers index worker there).call
          exact ⟨call.1, fun _ => call.2⟩
  | requester index =>
      cases there : state.requesters[index]? with
      | none => simp [State.calls, there]
      | some requester =>
          rw [calls_requester there]
          have call := (tame.within.requesters index requester there).call
          exact ⟨call.1, fun _ => call.2⟩
  | coordinator => simp

theorem step (only : around.ShutsDown) (tame : state.Tame)
    (moved : Moved around state thread next events) : next.Tame := by
  refine ⟨tame.within.step only moved, ?_⟩
  have careful := tame.calls thread
  rcases moved.moves with ⟨transfer, moves, -, -⟩
  have ended_eq := moves.advances.ended_eq
  cases moved with
  | reader stepped => exact Reader.ended_iff_of_step tame.within.reader stepped tame.ended
  | worker | requester =>
      rw [ended_eq ((careful.2 (by simp)).1 _)]
      exact tame.ended
  | coordinator => exact tame.ended

theorem start (capacity workers : Nat) (source : List Feed) (requests : Nat) :
    (State.start capacity workers source requests).Tame where
  within := .start capacity workers fun _ => rfl
  ended := iff_of_false (by simp [State.start, Queue.empty]) id

end State.Tame

end Scan

end LineTally
