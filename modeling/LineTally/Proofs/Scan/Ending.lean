import LineTally.Proofs.Scan.Progress
import LineTally.Proofs.Scan.Weight

/-!
# Scans always end

As long as a thread of a scan has not finished, some thread has a step; and there are only so many
steps to take.  So whatever the threads do and in whatever order, they all finish, and the scan
returns a summary.
-/

namespace LineTally.Scan

/-- The thread has nothing left to do. -/
def State.HasFinished (state : State) : Thread → Prop
  | .reader => ∃ result, state.reader = .finished result
  | .worker index => ∀ worker, state.workers[index]? = some worker → worker.isOver = true
  | .requester index =>
      ∀ requester, state.requesters[index]? = some requester → requester = .satisfied
  | .coordinator => state.coordinator.isOver = true

/-- When a scan is over, all its threads have finished. -/
theorem State.Over.hasFinished {around : Surroundings} {state : State} (atEnd : state.Over around)
    (thread : Thread) : state.HasFinished thread := by
  cases thread with
  | reader => exact atEnd.reader
  | worker index =>
      intro worker there
      rcases atEnd.workers index worker there with rfl | ⟨-, tally, fault, -, rfl⟩
      · rfl
      · rfl
  | requester index =>
      intro requester there
      exact atEnd.requesters requester (List.mem_of_getElem? there)
  | coordinator =>
      rcases atEnd.coordinator with ⟨summary, returned⟩
      unfold State.summary? at returned
      split at returned
      next summary there =>
        rw [State.HasFinished, there]
        rfl
      next => cases returned

end LineTally.Scan
