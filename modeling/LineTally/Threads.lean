/-!
# Threads that take turns

A system of threads moves by one step of one thread at a time.  Which thread moves is not fixed, nor
is what a step picks where it has a choice: every interleaving is a run of the system.  A thread
that waits has no step until another thread's step ends its waiting.

To run a system, one of its runs is chosen: in every state the first thread in a given order that
has a step takes it.
-/

namespace LineTally

/-- A system of threads over states `σ`; `ι` names the threads, `ε` says what can be observed. -/
structure System (σ ι ε : Type) where
  /-- The next step of a thread, if it has one: the state after it, and what is observed of it.
  The number resolves the choices of the step. -/
  step : ι → Nat → σ → Option (σ × List ε)

namespace System

variable {σ ι ε : Type}

/-- A run of the system from one state to another, with what is observed of it, in order. -/
inductive Run (system : System σ ι ε) : σ → List ε → σ → Prop where
  /-- Nothing happens. -/
  | refl (state : σ) : Run system state [] state
  /-- A run, and one more step. -/
  | tail {first middle last : σ} {before events : List ε} (thread : ι) (pick : Nat) :
      Run system first before middle →
      system.step thread pick middle = some (last, events) →
      Run system first (before ++ events) last

/-- No thread has a step. -/
def Stuck (system : System σ ι ε) (state : σ) : Prop :=
  ∀ thread pick, system.step thread pick state = none

/-- The first step that a thread in the list has. -/
def firstStep? (system : System σ ι ε) (state : σ) : List ι → Option (σ × List ε)
  | [] => none
  | thread :: rest => system.step thread 0 state <|> system.firstStep? state rest

/-- Takes steps, each by the first thread in order that has one, until none has or the number of
steps is used up. -/
def settle (system : System σ ι ε) (order : σ → List ι) : Nat → σ → σ × List ε
  | 0, state => (state, [])
  | fuel + 1, state =>
    match system.firstStep? state (order state) with
    | none => (state, [])
    | some (next, events) =>
      let (last, later) := system.settle order fuel next
      (last, events ++ later)

/-- The first step that is found is a step of one of the threads. -/
theorem exists_of_firstStep? {system : System σ ι ε} {state : σ} {threads : List ι}
    {next : σ × List ε} (found : system.firstStep? state threads = some next) :
    ∃ thread ∈ threads, system.step thread 0 state = some next := by
  induction threads with
  | nil => simp [firstStep?] at found
  | cons thread rest ih =>
    unfold firstStep? at found
    cases moved : system.step thread 0 state with
    | some moving =>
      simp [moved] at found
      exact ⟨thread, by simp, by rw [moved, found]⟩
    | none =>
      simp [moved] at found
      obtain ⟨other, member, stepped⟩ := ih found
      exact ⟨other, by simp [member], stepped⟩

/-- Runs can be put behind one another. -/
theorem Run.trans {system : System σ ι ε} {first middle last : σ} {before after : List ε}
    (early : system.Run first before middle) (late : system.Run middle after last) :
    system.Run first (before ++ after) last := by
  induction late with
  | refl => simpa using early
  | tail thread pick _ moved ih =>
    rw [← List.append_assoc]
    exact ih.tail thread pick moved

/-- What taking steps in order leads to is reached by a run. -/
theorem run_settle (system : System σ ι ε) (order : σ → List ι) (fuel : Nat) (state : σ) :
    system.Run state (system.settle order fuel state).2 (system.settle order fuel state).1 := by
  induction fuel generalizing state with
  | zero => exact .refl state
  | succ fuel ih =>
    unfold settle
    cases found : system.firstStep? state (order state) with
    | none => exact .refl state
    | some moved =>
      obtain ⟨next, events⟩ := moved
      obtain ⟨thread, _, stepped⟩ := exists_of_firstStep? found
      have once : system.Run state ([] ++ events) next := (Run.refl state).tail thread 0 stepped
      simpa using once.trans (ih next)

end System

end LineTally
