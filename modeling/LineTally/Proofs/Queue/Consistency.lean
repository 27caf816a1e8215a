import LineTally.Proofs.Queue.Calls
import Mathlib.Data.List.Nodup

/-!
# What the places of all threads say about a queue

At most one thread holds the lock, only threads inside a call sleep, and what a thread found out
under the lock stays true until it gives the lock back.  A step of one thread takes the queue from
one such state to another: it can upset neither its own place nor that of another thread.
-/

namespace LineTally.Queue

variable {ι α : Type}

open Call

/-- A place agrees with the queue: about the lock, the sleepers, and what was found out. -/
structure Fits (queue : Queue ι α) (me : ι) (call : Call α) : Prop where
  lock : queue.holder = some me ↔ call.holdsLock = true
  writer : me ∈ queue.writers → ∃ item, call = .push (.sleeping item)
  reader : me ∈ queue.readers → call = .pop .sleeping
  ground : call.Grounded queue

/-- The ring is sound, nobody sleeps twice, and every thread's place agrees with the queue. -/
structure Consistent (queue : Queue ι α) (calls : ι → Call α) : Prop where
  ring : queue.ring.Valid
  writers : queue.writers.Nodup
  readers : queue.readers.Nodup
  fits : ∀ thread, Fits queue thread (calls thread)

/-- What a step of another thread may do to the queue, seen by this one. -/
structure Spares (other : ι) (before after : Queue ι α) : Prop where
  holder : after.holder = some other ↔ before.holder = some other
  writer : other ∈ after.writers → other ∈ before.writers
  reader : other ∈ after.readers → other ∈ before.readers
  cancelled : before.cancelled = true → after.cancelled = true
  guarded : before.holder = some other → after.ring = before.ring ∧ after.ended = before.ended

theorem mem_of_mem_wakeOne {sleepers : List ι} {pick : Nat} {thread : ι}
    (asleep : thread ∈ wakeOne sleepers pick) : thread ∈ sleepers :=
  List.mem_of_mem_eraseIdx asleep

theorem nodup_wakeOne {sleepers : List ι} (distinct : sleepers.Nodup) (pick : Nat) :
    (wakeOne sleepers pick).Nodup :=
  distinct.sublist (List.eraseIdx_sublist ..)

namespace Call

/-- A place that holds nothing says nothing. -/
theorem Idle.fits {call : Call α} (idle : call.Idle) {queue : Queue ι α} {me : ι}
    (holder : queue.holder ≠ some me) (writer : me ∉ queue.writers)
    (reader : me ∉ queue.readers) : Fits queue me call := by
  cases idle <;> exact ⟨by simpa [holdsLock] using holder, by simp [writer], by simp [reader],
    trivial⟩

theorem Idle.holdsLock_eq {call : Call α} (idle : call.Idle) : call.holdsLock = false := by
  cases idle <;> rfl

end Call

/-- A thread may go on to any call when it has nothing to finish. -/
theorem Fits.leads {queue : Queue ι α} {me : ι} {before after : Call α}
    (fits : Fits queue me before) (leads : before.Leads after) : Fits queue me after := by
  rcases leads with same | ⟨idle, start⟩
  · exact same ▸ fits
  · apply start.fits
    · intro mine
      simpa [idle.holdsLock_eq] using fits.lock.mp mine
    · intro asleep
      obtain ⟨item, there⟩ := fits.writer asleep
      subst there
      cases idle
    · intro asleep
      have there := fits.reader asleep
      subst there
      cases idle

/-- What a place says stays true while others move. -/
theorem Fits.spared {before after : Queue ι α} {other : ι} {call : Call α}
    (fits : Fits before other call) (spares : Spares other before after) :
    Fits after other call where
  lock := spares.holder.trans fits.lock
  writer asleep := fits.writer (spares.writer asleep)
  reader asleep := fits.reader (spares.reader asleep)
  ground := by
    have ground := fits.ground
    by_cases held : call.holdsLock = true
    · obtain ⟨ring, ended⟩ := spares.guarded (fits.lock.mpr held)
      have raised := spares.cancelled
      unfold Grounded at ground ⊢
      rw [ring, ended]
      split <;> grind
    · unfold Grounded at ground ⊢
      split <;> grind [holdsLock, spares.cancelled]

section Turns

variable {queue next : Queue ι α} {me : ι} {call after : Call α}
variable {transfer : Option (Transfer α)}

/-- The thread that moves holds the lock, or needs nothing that others guard. -/
theorem Turn.spares (turn : Turn me queue call transfer next after) (fits : Fits queue me call)
    {other : ι} (different : other ≠ me) : Spares other queue next := by
  have mine : call.holdsLock = true → queue.holder = some me := fits.lock.mpr
  have notMine : queue.holder = some me → queue.holder ≠ some other := by
    intro held met
    exact different (Option.some.inj (met.symm.trans held))
  cases turn with
  | stays => exact ⟨Iff.rfl, id, id, id, fun _ => ⟨rfl, rfl⟩⟩
  | pushEnters free | pushReenters _ free | popEnters free | popReenters _ free
  | endEnters free | cancelEnters free =>
      exact ⟨by simp [free, different.symm], id, id, id, by simp [free]⟩
  | pushFindsFull | pushGoesOn | pushCancelled | pushCleared | pushClosed | pushFaults
  | popFindsNone | popGoesOn | popCancelled | popCleared | popDrained | popFaults
  | endRepeats =>
      exact ⟨Iff.rfl, id, id, id, fun _ => ⟨rfl, rfl⟩⟩
  | pushSleeps | popSleeps =>
      have held := mine rfl
      constructor <;> simp [sleepAsWriter, sleepAsReader, notMine held, different]
  | pushPlaces pick =>
      have held := mine rfl
      exact ⟨Iff.rfl, id, mem_of_mem_wakeOne, id, fun met => absurd met (notMine held)⟩
  | popTakes pick =>
      have held := mine rfl
      exact ⟨Iff.rfl, mem_of_mem_wakeOne, id, id, fun met => absurd met (notMine held)⟩
  | pushLeaves | popLeaves | endLeaves | cancelLeaves =>
      have held := mine rfl
      exact ⟨by simp [unlock, notMine held], id, id, id, fun _ => ⟨rfl, rfl⟩⟩
  | endMarks =>
      have held := mine rfl
      exact ⟨Iff.rfl, id, by simp, id, fun met => absurd met (notMine held)⟩
  | cancelWakes => exact ⟨Iff.rfl, by simp, by simp, id, fun _ => ⟨rfl, rfl⟩⟩
  | cancelRaises | raises => exact ⟨Iff.rfl, id, id, fun _ => rfl, fun _ => ⟨rfl, rfl⟩⟩

/-- What enters a queue is put behind its items, and what leaves it was the first of them. -/
theorem Turn.ring (turn : Turn me queue call transfer next after) (valid : queue.ring.Valid)
    (fits : Fits queue me call) :
    next.ring.Valid ∧ next.ring.capacity = queue.ring.capacity ∧
      queue.ring.toList ++ entered transfer = departed transfer ++ next.ring.toList := by
  cases turn with
  | @pushPlaces item ring pick unended put =>
      obtain ⟨ring', placed, sound, capacity, items⟩ := valid.put item fits.ground
      cases placed.symm.trans put
      exact ⟨sound, capacity, by simp [entered, departed, items]⟩
  | @popTakes item ring pick filled take =>
      obtain ⟨item', ring', taken, sound, capacity, items⟩ := valid.take filled
      cases taken.symm.trans take
      exact ⟨sound, capacity, by simp [entered, departed, items]⟩
  | _ => exact ⟨valid, rfl, by simp [entered, departed, unlock, sleepAsWriter, sleepAsReader,
      raiseFlag]⟩

/-- The place to which a thread moves agrees with the queue again; in particular it is not one of
those behind a fault of the ring. -/
theorem Turn.fits (turn : Turn me queue call transfer next after) (valid : queue.ring.Valid)
    (fits : Fits queue me call) : Fits next me after := by
  have lock := fits.lock
  have ground := fits.ground
  have writer : (∀ item, call ≠ .push (.sleeping item)) → me ∉ queue.writers := by
    intro elsewhere asleep
    obtain ⟨item, there⟩ := fits.writer asleep
    exact elsewhere item there
  have reader : call ≠ .pop .sleeping → me ∉ queue.readers :=
    fun elsewhere asleep => elsewhere (fits.reader asleep)
  cases turn with
  | stays => exact fits
  | pushPlaces =>
      refine ⟨lock, ?_, ?_, trivial⟩
      · exact fun asleep => absurd asleep (writer (by simp))
      · exact fun asleep => absurd (mem_of_mem_wakeOne asleep) (reader (by simp))
  | popTakes =>
      refine ⟨lock, ?_, ?_, trivial⟩
      · exact fun asleep => absurd (mem_of_mem_wakeOne asleep) (writer (by simp))
      · exact fun asleep => absurd asleep (reader (by simp))
  | @pushFaults item _ put =>
      obtain ⟨_, placed, _⟩ := valid.put item ground
      cases placed.symm.trans put
  | popFaults filled take =>
      obtain ⟨_, _, taken, _⟩ := valid.take filled
      cases taken.symm.trans take
  | _ =>
      constructor <;>
        simp_all [holdsLock, Grounded, unlock, sleepAsWriter, sleepAsReader, raiseFlag]

/-- Nobody falls asleep twice. -/
theorem Turn.nodup (turn : Turn me queue call transfer next after) (fits : Fits queue me call)
    (writers : queue.writers.Nodup) (readers : queue.readers.Nodup) :
    next.writers.Nodup ∧ next.readers.Nodup := by
  cases turn with
  | pushSleeps =>
      have awake : me ∉ queue.writers := fun asleep => by simpa using fits.writer asleep
      exact ⟨by simpa [sleepAsWriter] using List.Nodup.concat awake writers, readers⟩
  | popSleeps =>
      have awake : me ∉ queue.readers := fun asleep => by simpa using fits.reader asleep
      exact ⟨writers, by simpa [sleepAsReader] using List.Nodup.concat awake readers⟩
  | pushPlaces pick => exact ⟨writers, nodup_wakeOne readers pick⟩
  | popTakes pick => exact ⟨nodup_wakeOne writers pick, readers⟩
  | endMarks => exact ⟨writers, List.nodup_nil⟩
  | cancelWakes => exact ⟨List.nodup_nil, List.nodup_nil⟩
  | _ => exact ⟨writers, readers⟩

end Turns

/-- A step of a system of threads, as far as it concerns a queue: one thread advances, and the
others stay where they are. -/
structure Moves (me : ι) (queue : Queue ι α) (calls : ι → Call α)
    (transfer : Option (Transfer α)) (next : Queue ι α) (calls' : ι → Call α) : Prop where
  advances : Advances me queue (calls me) transfer next (calls' me)
  others : ∀ other, other ≠ me → calls' other = calls other

namespace Consistent

variable {queue next : Queue ι α} {calls calls' : ι → Call α} {me : ι}
variable {transfer : Option (Transfer α)}

/-- In the beginning all threads are away from an empty queue or at the start of a call. -/
theorem start {capacity : Nat} (positive : 0 < capacity) (fits : capacity < Count.limit)
    (idle : ∀ thread, (calls thread).Idle) : Consistent (empty capacity) calls where
  ring := (Ring.holds_empty positive fits).valid
  writers := List.nodup_nil
  readers := List.nodup_nil
  fits thread := (idle thread).fits (by simp [empty]) (by simp [empty]) (by simp [empty])

theorem moves (consistent : Consistent queue calls)
    (moves : Moves me queue calls transfer next calls') : Consistent next calls' := by
  rcases moves.advances with ⟨between, turn, leads⟩
  have mine := consistent.fits me
  obtain ⟨ring, -, -⟩ := turn.ring consistent.ring mine
  obtain ⟨writers, readers⟩ := turn.nodup mine consistent.writers consistent.readers
  refine ⟨ring, writers, readers, ?_⟩
  intro thread
  by_cases same : thread = me
  · subst same
    exact (turn.fits consistent.ring mine).leads leads
  · rw [moves.others thread same]
    exact (consistent.fits thread).spared (turn.spares mine same)

/-- What enters a queue is put behind its items, and what leaves it was the first of them. -/
theorem items (consistent : Consistent queue calls)
    (moves : Moves me queue calls transfer next calls') :
    queue.ring.toList ++ entered transfer = departed transfer ++ next.ring.toList := by
  rcases moves.advances with ⟨between, turn, -⟩
  exact (turn.ring consistent.ring (consistent.fits me)).2.2

end Consistent

end LineTally.Queue
