import LineTally.Scan.Basic

/-!
# Scans of a source that is still growing

A source need not have everything at once that it will give in the end.  Until more comes, the
reader waits in the source while the other threads go on.  Every run of a scan that waits in this
way is the beginning of a run of the scan of the whole source.
-/

namespace LineTally.Scan

/-- The reader has reached the point from which on the source has nothing yet. -/
def State.awaitsSource (state : State) (later : Nat) : Bool :=
  match state.reader with
  | .asking source _ => source.length ≤ later
  | _ => false

/-- The threads of a scan of a source that does not have its last things yet, `later` in number. -/
def waitingSystem (around : Surroundings) (later : Nat) : System State Thread Event where
  step thread pick state :=
    if thread = .reader ∧ state.awaitsSource later then none
    else (system around).step thread pick state

/-- A step of a scan that may have to wait is a step of the scan. -/
theorem step_of_waitingSystem_step {around : Surroundings} {later : Nat} {thread : Thread}
    {pick : Nat} {state : State} {moved : State × List Event}
    (stepped : (waitingSystem around later).step thread pick state = some moved) :
    (system around).step thread pick state = some moved := by
  simp only [waitingSystem] at stepped
  split at stepped
  · cases stepped
  · exact stepped

/-- A run of a scan that may have to wait is a run of the scan. -/
theorem run_of_waitingSystem_run {around : Surroundings} {later : Nat} {first last : State}
    {events : List Event} (run : (waitingSystem around later).Run first events last) :
    (system around).Run first events last := by
  induction run with
  | refl => exact .refl first
  | tail thread pick _ stepped ih => exact ih.tail thread pick (step_of_waitingSystem_step stepped)

end LineTally.Scan
