import LineTally.Proofs.Queue.Consistency

/-!
# What is left of a queue that was cancelled

A call that cancels a queue sets the flag, and only then takes the lock and wakes everybody.  In
between, other threads may find the flag clear, and put, take or fall asleep.  But the call wakes
with the lock in its hands, and until it gives the lock back nobody falls asleep.  When it gives the
lock back nobody else holds it, so no other thread is past its last look at the flag.  From then on
every thread that has not finished comes to see the flag: nothing enters or leaves the queue any
more, nobody sleeps, and each call has few steps left.
-/

namespace LineTally.Queue

variable {ι α : Type}

open Call

namespace Call

/-- A thread that is not past its last look at the flag, or has seen that it is set. -/
def Heeds : Call α → Prop
  | .push (.settling _) | .push (.placing _) | .pop .settling | .pop .taking => False
  | .push (.leaving result) => result = .refused .cancelled
  | .pop (.leaving result) => result = .ok none
  | _ => True

/-- A thread without the lock has its look at the flag before it. -/
theorem heeds_of_holdsLock {call : Call α} (free : call.holdsLock = false) : call.Heeds := by
  unfold Heeds
  split <;> trivial

theorem Leads.heeds {before after : Call α} (leads : before.Leads after) (heeds : before.Heeds) :
    after.Heeds := by
  rcases leads with rfl | ⟨-, start⟩
  · exact heeds
  · exact heeds_of_holdsLock start.holdsLock_eq

/-- The steps that a call takes at most once the queue is cancelled and nobody sleeps. -/
def remaining : Call α → Nat
  | .push (.arriving _) | .push (.sleeping _) => 4
  | .push (.testing _) => 3
  | .push (.deciding _) => 2
  | .push (.leaving _) => 1
  | .pop .arriving | .pop .sleeping => 4
  | .pop .testing => 3
  | .pop .deciding => 2
  | .pop (.leaving _) => 1
  | .endStream .arriving => 3
  | .endStream .marking => 2
  | .endStream (.leaving _) => 1
  | .cancel .raising => 4
  | .cancel (.arriving _) => 3
  | .cancel (.waking _) => 2
  | .cancel (.leaving _) => 1
  | .raiseFlag => 1
  | .away | .push (.settling _) | .push (.placing _) | .pop .settling | .pop .taking => 0

theorem remaining_le (call : Call α) : call.remaining ≤ 4 := by
  unfold remaining
  split <;> decide

end Call

/-- Nobody sleeps while a thread that has woken everybody still has the lock. -/
def Cleared (queue : Queue ι α) (calls : ι → Call α) : Prop :=
  ∀ thread first, calls thread = .cancel (.leaving first) →
    queue.writers = [] ∧ queue.readers = []

/-- The queue is cancelled, nobody sleeps, and everybody comes to see the flag or has seen it. -/
structure Released (queue : Queue ι α) (calls : ι → Call α) : Prop where
  cancelled : queue.cancelled = true
  writers : queue.writers = []
  readers : queue.readers = []
  heeds : ∀ thread, (calls thread).Heeds

section Turns

variable {queue next : Queue ι α} {me : ι} {call after : Call α}
variable {transfer : Option (Transfer α)}

/-- A thread without the lock does not fall asleep, and wakes nobody. -/
theorem Turn.sleepers_eq (turn : Turn me queue call transfer next after)
    (free : call.holdsLock = false) :
    next.writers = queue.writers ∧ next.readers = queue.readers := by
  cases turn with
  | stays | pushEnters | pushReenters | popEnters | popReenters | endEnters | cancelEnters
  | cancelRaises | raises => exact ⟨rfl, rfl⟩
  | _ => cases free

/-- What a thread does to a cancelled queue that nobody sleeps at. -/
theorem Turn.heeds (turn : Turn me queue call transfer next after)
    (cancelled : queue.cancelled = true) (writers : queue.writers = [])
    (readers : queue.readers = []) (heeds : call.Heeds) :
    next.cancelled = true ∧ next.writers = [] ∧ next.readers = [] ∧ after.Heeds ∧
      next.ring = queue.ring ∧ transfer = none := by
  cases turn with
  | stays => exact ⟨cancelled, writers, readers, heeds, rfl, rfl⟩
  | pushFindsFull _ clear | popFindsNone _ _ clear | pushCleared clear | popCleared clear =>
      simp [cancelled] at clear
  | pushSleeps | pushClosed | pushPlaces | pushFaults | popSleeps | popDrained | popTakes
  | popFaults => exact heeds.elim
  | endMarks => exact ⟨cancelled, writers, rfl, trivial, rfl, rfl⟩
  | cancelWakes => exact ⟨cancelled, rfl, rfl, trivial, rfl, rfl⟩
  | cancelRaises | raises => exact ⟨rfl, writers, readers, trivial, rfl, rfl⟩
  | pushCancelled | popCancelled => exact ⟨cancelled, writers, readers, rfl, rfl, rfl⟩
  | _ => exact ⟨cancelled, writers, readers, trivial, rfl, rfl⟩

/-- Every step in a call at a cancelled queue is one of the few that are left. -/
theorem Turn.remaining_lt (turn : Turn me queue call transfer next after) (moved : after ≠ call)
    (cancelled : queue.cancelled = true) (heeds : call.Heeds) :
    after.remaining < call.remaining := by
  cases turn with
  | stays => exact absurd rfl moved
  | pushFindsFull _ clear | popFindsNone _ _ clear | pushCleared clear | popCleared clear =>
      simp [cancelled] at clear
  | pushSleeps | pushClosed | pushPlaces | pushFaults | popSleeps | popDrained | popTakes
  | popFaults => exact heeds.elim
  | _ => simp [remaining]

end Turns

section Moves

variable {queue next : Queue ι α} {calls calls' : ι → Call α} {me : ι}
variable {transfer : Option (Transfer α)}

theorem Cleared.start {calls : ι → Call α} (idle : ∀ thread, (calls thread).Idle)
    (queue : Queue ι α) : Cleared queue calls := by
  intro thread first there
  have holds := (idle thread).holdsLock_eq
  rw [there] at holds
  cases holds

theorem Cleared.moves (cleared : Cleared queue calls) (consistent : Consistent queue calls)
    (moves : Moves me queue calls transfer next calls') : Cleared next calls' := by
  intro thread first there
  rcases moves with ⟨⟨between, turn, leads⟩, others⟩
  by_cases same : thread = me
  · subst same
    rcases leads with rfl | ⟨-, start⟩
    · rw [there] at turn
      generalize waking : calls thread = before at turn
      cases turn with
      | stays => exact cleared thread first waking
      | cancelWakes => exact ⟨rfl, rfl⟩
    · rw [there] at start
      cases start
  · rw [others thread same] at there
    have held : queue.holder = some thread := (consistent.fits thread).lock.mpr (by rw [there]; rfl)
    have free : (calls me).holdsLock = false := by
      by_contra holds
      have mine := (consistent.fits me).lock.mpr (by simpa using holds)
      exact same (Option.some.inj (held.symm.trans mine))
    rw [(turn.sleepers_eq free).1, (turn.sleepers_eq free).2]
    exact cleared thread first there

namespace Released

/-- When a call that cancelled the queue returns, everybody has been released. -/
theorem of_return {first : Bool} (cleared : Cleared queue calls)
    (consistent : Consistent queue calls)
    (moves : Moves me queue calls transfer next calls')
    (leaving : calls me = .cancel (.leaving first)) (left : calls' me ≠ .cancel (.leaving first)) :
    Released next calls' := by
  have after := consistent.moves moves
  have ground := (consistent.fits me).ground
  rcases moves.advances with ⟨between, turn, leads⟩
  have awake := cleared me first leaving
  rw [leaving] at turn ground
  cases turn with
  | stays =>
      rcases leads with same | ⟨idle, -⟩
      · exact absurd same.symm left
      · cases idle
  | cancelLeaves =>
      refine ⟨ground, awake.1, awake.2, ?_⟩
      intro thread
      apply heeds_of_holdsLock
      by_contra holds
      have held := (after.fits thread).lock.mpr (by simpa using holds)
      cases held

/-- Nothing happens any more at a queue from which everybody has been released. -/
theorem moves (released : Released queue calls)
    (moves : Moves me queue calls transfer next calls') :
    Released next calls' ∧ next.ring = queue.ring ∧ transfer = none := by
  rcases moves with ⟨⟨between, turn, leads⟩, others⟩
  rcases turn.heeds released.cancelled released.writers released.readers (released.heeds me) with
    ⟨cancelled, writers, readers, heeds, ring, nothing⟩
  refine ⟨⟨cancelled, writers, readers, ?_⟩, ring, nothing⟩
  intro thread
  by_cases same : thread = me
  · subst same
    exact leads.heeds heeds
  · rw [others thread same]
    exact released.heeds thread

end Released

end Moves

end LineTally.Queue
