import LineTally.Proofs.Scan.Calls

/-!
# One more who asks for shutdown

Who asks for shutdown takes part in a scan only through the queue.  So one more who does leaves all
other threads the steps that they have without it.
-/

namespace LineTally.Scan

open Queue

variable {around : Surroundings} {state : State} {requester : Requester} {thread : Thread}

/-- A scan with one more who asks for shutdown. -/
def State.alongside (state : State) (requester : Requester) : State :=
  { state with requesters := state.requesters ++ [requester] }

theorem State.start_alongside (capacity workers : Nat) (source : List Feed) (requests : Nat) :
    (State.start capacity workers source requests).alongside
        (.asking (.shuttingDown .raising)) =
      State.start capacity workers source (requests + 1) := by
  simp [State.alongside, State.start, List.replicate_succ', Action.start]

/-- One more who asks for shutdown makes no difference to what the others do. -/
theorem step_alongside {pick : Nat} (other : thread ≠ .requester state.requesters.length) :
    (system around).step thread pick (state.alongside requester) =
      ((system around).step thread pick state).map fun moved =>
        (moved.1.alongside requester, moved.2) := by
  cases thread with
  | reader => simp [system, State.alongside, Function.comp_def]
  | worker index =>
      simp only [system, State.alongside]
      cases state.workers[index]? with
      | none => rfl
      | some worker =>
          cases Count.ofNat? index with
          | none => rfl
          | some number =>
              cases stepped : worker.step around state.shared number pick with
              | none => simp [stepped]
              | some step => simp [stepped]
  | requester index =>
      simp only [system, State.alongside]
      cases there : state.requesters[index]? with
      | none =>
          have outside : (state.requesters ++ [requester])[index]? = none := by
            rw [List.getElem?_eq_none_iff] at there ⊢
            have different : index ≠ state.requesters.length := fun same => other (same ▸ rfl)
            rw [List.length_append, List.length_singleton]
            omega
          simp [outside]
      | some asked =>
          have before := (List.getElem?_eq_some_iff.mp there).1
          rw [List.getElem?_append_left before, there]
          cases asked with
          | satisfied => rfl
          | asking inside =>
              cases stepped : inside.step state.shared.queue (.requester index) with
              | none => simp [stepped]
              | some acted =>
                  cases progress : acted.progress <;>
                    simp [stepped, progress, List.set_append_left _ _ before]
  | coordinator =>
      have same : state.coordinator.step (state.alongside requester) =
          state.coordinator.step state := by
        cases state.coordinator <;> rfl
      simp only [system, Option.map_map]
      exact congrArg _ same

theorem getElem?_alongside (state : State) (requester : Requester) :
    (state.alongside requester).requesters[state.requesters.length]? = some requester := by
  simp [State.alongside]

/-- The one more goes on. -/
theorem moved_alongside {inside : Acting} {acted : Acted Thread String}
    (stepped : inside.step state.shared.queue (.requester state.requesters.length) = some acted) :
    ∃ events, Moved around (state.alongside (.asking inside))
      (.requester state.requesters.length)
      (({ state with shared := { state.shared with queue := acted.queue } } : State).alongside
        (Requester.after acted.progress).1) events := by
  have moved : Moved around (state.alongside (.asking inside)) _ _ _ :=
    .requester (getElem?_alongside state (.asking inside)) stepped
  simp only [State.alongside, List.set_append_right _ _ (Nat.le_refl _), Nat.sub_self,
    List.set_cons_zero] at moved
  exact ⟨_, moved⟩

end LineTally.Scan
