import LineTally.Threads
import Mathlib.Algebra.Ring.Nat
import Mathlib.Data.List.Nodup

/-!
# What holds along every run

A property of the state and of what has been observed holds at the end of every run if it holds at
the start and every step keeps it.  If every step takes something off a weight, no sequence of steps
is longer than the weight at its start, and taking steps in order comes to an end.  What many
threads did, in order, is what each of them did, interleaved.  What is not observed of a step can be
told from the state before it, so steps can be put on record.
-/

namespace LineTally

/-- What one thread did, of what all threads did. -/
def ofThread (thread : Nat) (done : List (Nat × String)) : List String :=
  (done.filter (·.1 = thread)).map Prod.snd

theorem ofThread_append (thread : Nat) (before after : List (Nat × String)) :
    ofThread thread (before ++ after) = ofThread thread before ++ ofThread thread after := by
  simp [ofThread]

theorem ofThread_map_self (thread : Nat) (items : List String) :
    ofThread thread (items.map (thread, ·)) = items := by
  simp [ofThread, List.filter_map, Function.comp_def]

theorem ofThread_map_ne {thread other : Nat} (different : other ≠ thread)
    (items : List String) : ofThread thread (items.map (other, ·)) = [] := by
  simp [ofThread, List.filter_map, Function.comp_def, different]

/-- What is left of what one thread did when only some threads are considered. -/
theorem ofThread_filter (thread : Nat) (considered : Nat → Bool) (done : List (Nat × String)) :
    ofThread thread (done.filter fun entry => considered entry.1) =
      if considered thread then ofThread thread done else [] := by
  rw [ofThread, List.filter_filter]
  split
  next kept =>
    congr 1
    apply List.filter_congr
    rintro ⟨other, item⟩ -
    by_cases same : other = thread <;> simp [same, kept]
  next dropped =>
    rw [List.map_eq_nil_iff, List.filter_eq_nil_iff]
    rintro ⟨other, item⟩ -
    by_cases same : other = thread <;> simp [same, dropped]

theorem mem_iff_mem_ofThread {thread : Nat} {item : String} {done : List (Nat × String)} :
    (thread, item) ∈ done ↔ item ∈ ofThread thread done := by
  simp [ofThread]

/-- Threads that did one thing at most did different things. -/
theorem nodup_threads {done : List (Nat × String)}
    (once : ∀ thread, (ofThread thread done).length ≤ 1) : (done.map Prod.fst).Nodup := by
  rw [List.nodup_iff_count_le_one]
  intro thread
  have counted : (done.map Prod.fst).count thread = (ofThread thread done).length := by
    rw [ofThread, List.length_map, List.count, List.countP_map, List.countP_eq_length_filter]
    congr 2
  exact counted ▸ once thread

/-- A thread that is found where one was replaced is the new one, or another that was there
before. -/
theorem eq_or_getElem?_of_set {κ : Type} {threads : List κ} {place index : Nat}
    {replaced thread : κ} (there : (threads.set place replaced)[index]? = some thread) :
    index = place ∧ thread = replaced ∨ index ≠ place ∧ threads[index]? = some thread := by
  by_cases same : index = place
  · subst same
    have inside : index < threads.length := by
      have bound := (List.getElem?_eq_some_iff.mp there).1
      rwa [List.length_set] at bound
    rw [List.getElem?_set_self inside] at there
    exact Or.inl ⟨rfl, (Option.some.inj there).symm⟩
  · rw [List.getElem?_set_ne (Ne.symm same)] at there
    exact Or.inr ⟨same, there⟩

/-- A thread that was there before one was replaced is the old one, or is there still. -/
theorem eq_or_getElem?_set {κ : Type} {threads : List κ} {place index : Nat} {before thread : κ}
    (there : threads[place]? = some before) (replaced : κ)
    (found : threads[index]? = some thread) :
    index = place ∧ thread = before ∨ (threads.set place replaced)[index]? = some thread := by
  by_cases same : index = place
  · subst same
    exact Or.inl ⟨rfl, Option.some.inj (found.symm.trans there)⟩
  · exact Or.inr ((List.getElem?_set_ne (Ne.symm same)).trans found)

/-- What holds of all threads holds of them still when one of them is replaced. -/
theorem forall_of_set {κ : Type} {threads : List κ} {place : Nat} {replaced : κ}
    (property : Nat → κ → Prop) (own : property place replaced)
    (others : ∀ index thread, index ≠ place → threads[index]? = some thread →
      property index thread) :
    ∀ index thread, (threads.set place replaced)[index]? = some thread →
      property index thread := by
  intro index thread there
  rcases eq_or_getElem?_of_set there with ⟨rfl, rfl⟩ | ⟨different, there⟩
  · exact own
  · exact others index thread different there

/-- How a count of threads changes when one of them is replaced. -/
theorem countP_set_add {κ : Type} {threads : List κ} {place : Nat} {before : κ}
    (there : threads[place]? = some before) (after : κ) (counts : κ → Bool) :
    (threads.set place after).countP counts + (if counts before then 1 else 0) =
      threads.countP counts + (if counts after then 1 else 0) := by
  induction threads generalizing place with
  | nil => simp at there
  | cons first rest ih =>
      cases place with
      | zero =>
          simp only [List.getElem?_cons_zero, Option.some.injEq] at there
          subst there
          simp only [List.set_cons_zero, List.countP_cons]
          omega
      | succ place =>
          have later := ih there
          simp only [List.set_cons_succ, List.countP_cons]
          omega

/-- What the threads weigh together. -/
def total {κ : Type} (weigh : Nat → κ → Nat) (threads : List κ) : Nat :=
  (threads.mapIdx weigh).sum

theorem total_cons {κ : Type} (weigh : Nat → κ → Nat) (first : κ) (rest : List κ) :
    total weigh (first :: rest) = weigh 0 first + total (fun index => weigh (index + 1)) rest := by
  simp [total, List.mapIdx_cons]

/-- Threads that each gain little do not gain much. -/
theorem total_le {κ : Type} {weigh weigh' : Nat → κ → Nat} {slack : Nat} (threads : List κ)
    (each : ∀ index thread, weigh' index thread ≤ weigh index thread + slack) :
    total weigh' threads ≤ total weigh threads + slack * threads.length := by
  induction threads generalizing weigh weigh' with
  | nil => exact Nat.zero_le _
  | cons first rest ih =>
      have later := ih fun index => each (index + 1)
      have now := each 0 first
      rw [total_cons, total_cons, List.length_cons, Nat.mul_succ]
      omega

/-- One thread is replaced, and the others gain little each. -/
theorem total_set_le {κ : Type} {weigh weigh' : Nat → κ → Nat} {slack place : Nat}
    {threads : List κ} {before : κ} (there : threads[place]? = some before) (after : κ)
    (each : ∀ index thread, weigh' index thread ≤ weigh index thread + slack) :
    total weigh' (threads.set place after) + weigh place before ≤
      total weigh threads + weigh' place after + slack * threads.length := by
  induction threads generalizing weigh weigh' place with
  | nil => simp at there
  | cons first rest ih =>
      cases place with
      | zero =>
          simp only [List.getElem?_cons_zero, Option.some.injEq] at there
          subst there
          have later := total_le rest fun index => each (index + 1)
          rw [List.set_cons_zero, total_cons, total_cons, List.length_cons, Nat.mul_succ]
          omega
      | succ place =>
          have later := ih there fun index => each (index + 1)
          have now := each 0 first
          rw [List.set_cons_succ, total_cons, total_cons, List.length_cons, Nat.mul_succ]
          omega

/-- Threads that each weigh little do not weigh much. -/
theorem total_le_mul {κ : Type} {weigh : Nat → κ → Nat} {most : Nat} {threads : List κ}
    (each : ∀ index, ∀ thread ∈ threads, weigh index thread ≤ most) :
    total weigh threads ≤ most * threads.length := by
  induction threads generalizing weigh with
  | nil => exact Nat.zero_le _
  | cons first rest ih =>
      have later : total (fun index => weigh (index + 1)) rest ≤ most * rest.length :=
        ih fun index thread member => each (index + 1) thread (List.mem_cons_of_mem _ member)
      have now := each 0 first (by simp)
      rw [total_cons, List.length_cons, Nat.mul_succ]
      omega

/-- Threads that are all alike weigh as much as one of them, as often as they are there. -/
theorem total_replicate_le {κ : Type} {weigh : Nat → κ → Nat} {most : Nat} (number : Nat)
    (thread : κ) (each : ∀ index, weigh index thread ≤ most) :
    total weigh (List.replicate number thread) ≤ most * number := by
  have all : ∀ index, ∀ other ∈ List.replicate number thread, weigh index other ≤ most := by
    intro index other member
    exact List.eq_of_mem_replicate member ▸ each index
  simpa using total_le_mul all

namespace System

variable {σ ι ε : Type} {system : System σ ι ε}

/-- A property that every step keeps holds along every run. -/
theorem Run.keeps {property : List ε → σ → Prop} {first last : σ} {events : List ε}
    (run : system.Run first events last) (start : property [] first)
    (step : ∀ before state thread pick next seen, property before state →
      system.step thread pick state = some (next, seen) → property (before ++ seen) next) :
    property events last := by
  induction run with
  | refl => exact start
  | tail thread pick _ moved ih => exact step _ _ thread pick _ _ ih moved

/-- A property of the state that every step from a state on the way keeps holds at the end. -/
theorem Run.keeps_state {property : σ → Prop} {first last : σ} {events : List ε}
    (run : system.Run first events last) (start : property first)
    (step : ∀ before state thread pick next seen, system.Run first before state →
      property state → system.step thread pick state = some (next, seen) → property next) :
    property last := by
  induction run with
  | refl => exact start
  | tail thread pick early moved ih => exact step _ _ thread pick _ _ early ih moved

/-- The system without the steps that lead to a state that is not of this kind. -/
def keepingTo (system : System σ ι ε) (kind : σ → Bool) : System σ ι ε where
  step thread pick state := (system.step thread pick state).filter (kind ·.1)

theorem step_of_keepingTo {kind : σ → Bool} {thread : ι} {pick : Nat} {state next : σ}
    {seen : List ε} (moved : (system.keepingTo kind).step thread pick state = some (next, seen)) :
    system.step thread pick state = some (next, seen) ∧ kind next = true :=
  Option.filter_eq_some_iff.mp moved

/-- A run that keeps to states of a kind is a run. -/
theorem Run.of_keepingTo {kind : σ → Bool} {first last : σ} {events : List ε}
    (run : (system.keepingTo kind).Run first events last) : system.Run first events last := by
  induction run with
  | refl => exact .refl first
  | tail thread pick _ moved ih => exact ih.tail thread pick (step_of_keepingTo moved).1

/-! ## Steps on record -/

/-- What is on record of a step. -/
structure Record (σ ι ε : Type) where
  /-- The thread that took it. -/
  thread : ι
  /-- The state before it. -/
  before : σ
  /-- What was observed of it. -/
  events : List ε

/-- What was observed of the steps on record, in order. -/
def observed (records : List (Record σ ι ε)) : List ε :=
  records.flatMap Record.events

theorem observed_append (before after : List (Record σ ι ε)) :
    observed (before ++ after) = observed before ++ observed after :=
  List.flatMap_append

/-- The system that puts its steps on record. -/
def recorded (system : System σ ι ε) : System σ ι (Record σ ι ε) where
  step thread pick state :=
    (system.step thread pick state).map fun moved => (moved.1, [⟨thread, state, moved.2⟩])

theorem step_of_recorded {thread : ι} {pick : Nat} {state next : σ}
    {seen : List (Record σ ι ε)}
    (moved : system.recorded.step thread pick state = some (next, seen)) :
    ∃ events, system.step thread pick state = some (next, events) ∧
      seen = [⟨thread, state, events⟩] := by
  rcases Option.map_eq_some_iff.mp moved with ⟨⟨other, events⟩, stepped, same⟩
  cases same
  exact ⟨events, stepped, rfl⟩

/-- Every run can be put on record, and what is on record is a run. -/
theorem run_iff_exists_recorded {first last : σ} {events : List ε} :
    system.Run first events last ↔
      ∃ records, system.recorded.Run first records last ∧ observed records = events := by
  constructor
  · intro run
    induction run with
    | refl => exact ⟨[], .refl first, rfl⟩
    | @tail middle _ _ seen thread pick _ moved ih =>
        rcases ih with ⟨records, run, rfl⟩
        refine ⟨records ++ [⟨thread, middle, seen⟩], run.tail thread pick ?_, ?_⟩
        · simp [recorded, moved]
        · simp [observed]
  · rintro ⟨records, run, rfl⟩
    induction run with
    | refl => exact .refl first
    | tail thread pick _ moved ih =>
        rcases step_of_recorded moved with ⟨seen, stepped, rfl⟩
        rw [observed_append]
        simpa [observed] using ih.tail thread pick stepped

/-! ## Steps that are counted -/

/-- A sequence of steps from one state to another, with their number. -/
inductive Steps (system : System σ ι ε) : σ → Nat → σ → Prop where
  | refl (state : σ) : Steps system state 0 state
  | tail {first middle last : σ} {number : Nat} {events : List ε} (thread : ι) (pick : Nat) :
      Steps system first number middle →
      system.step thread pick middle = some (last, events) →
      Steps system first (number + 1) last

/-- A sequence of steps is a run. -/
theorem Steps.run {first last : σ} {number : Nat} (steps : system.Steps first number last) :
    ∃ events, system.Run first events last := by
  induction steps with
  | refl => exact ⟨[], .refl first⟩
  | tail thread pick _ moved ih =>
      rcases ih with ⟨events, run⟩
      exact ⟨_, run.tail thread pick moved⟩

/-- Steps that each take something off a weight are no more than the weight. -/
theorem Steps.length_le {weight : σ → Nat} {first last : σ} {number : Nat}
    (steps : system.Steps first number last)
    (lighter : ∀ events state thread pick next seen, system.Run first events state →
      system.step thread pick state = some (next, seen) → weight next < weight state) :
    number + weight last ≤ weight first := by
  induction steps with
  | refl => omega
  | tail thread pick before moved ih =>
      rcases before.run with ⟨events, run⟩
      have := lighter events _ thread pick _ _ run moved
      omega

/-- Sequences of steps can be put behind one another. -/
theorem Steps.trans {first middle last : σ} {early late : Nat}
    (before : system.Steps first early middle) (after : system.Steps middle late last) :
    system.Steps first (early + late) last := by
  induction after with
  | refl => exact before
  | tail thread pick _ moved ih => exact ih.tail thread pick moved

/-- A run is a sequence of steps. -/
theorem Run.steps {first last : σ} {events : List ε} (run : system.Run first events last) :
    ∃ number, system.Steps first number last := by
  induction run with
  | refl => exact ⟨0, .refl first⟩
  | tail thread pick _ moved ih =>
      rcases ih with ⟨number, steps⟩
      exact ⟨number + 1, steps.tail thread pick moved⟩

/-! ## Taking steps in order -/

theorem firstStep?_eq_none_iff {state : σ} {threads : List ι} :
    system.firstStep? state threads = none ↔
      ∀ thread ∈ threads, system.step thread 0 state = none := by
  induction threads with
  | nil => simp [firstStep?]
  | cons thread rest ih => simp [firstStep?, ih]

/-- If the number of steps to take is bounded, taking as many in order leads to a state in which no
thread in order has a step. -/
theorem firstStep?_settle {order : σ → List ι} {fuel : Nat} {state : σ}
    (bounded : ∀ number last, system.Steps state number last → number ≤ fuel) :
    system.firstStep? (system.settle order fuel state).1
      (order (system.settle order fuel state).1) = none := by
  induction fuel generalizing state with
  | zero =>
      rw [settle]
      by_contra moves
      rcases Option.ne_none_iff_exists'.mp moves with ⟨moved, found⟩
      rcases exists_of_firstStep? found with ⟨thread, -, stepped⟩
      exact absurd (bounded 1 _ ((Steps.refl state).tail thread 0 stepped)) (by decide)
  | succ fuel ih =>
      rw [settle]
      cases found : system.firstStep? state (order state) with
      | none => exact found
      | some moved =>
          rcases exists_of_firstStep? found with ⟨thread, -, stepped⟩
          apply ih
          intro number last steps
          have longer := bounded _ last (((Steps.refl state).tail thread 0 stepped).trans steps)
          omega

end System

end LineTally
