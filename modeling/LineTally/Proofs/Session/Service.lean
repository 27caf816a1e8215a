import LineTally.Proofs.Queue.Service
import LineTally.Proofs.Session.Calls

/-!
# The ring of a session

Whatever the threads of a session are there for, and however they take turns, they only ever serve
the ring of their queue.  So no thread finds the slot it is about to fill taken, or the one it is
about to empty free, and no pop comes back with nothing while there are items and no cancellation.
-/

namespace LineTally.Session

open Queue

/-- The ring of a session has been served with the items that were put and taken. -/
theorem served {capacity : Count} (positive : 0 < capacity.toNat) {tasks : List Task}
    {events : List Event} {last : Session}
    (run : system.Run (opening capacity.toNat tasks) events last) :
    Ring.Served capacity.toNat ((puts events).map Prod.snd) ((takes events).map Prod.snd)
      last.queue.ring := by
  induction run with
  | refl => exact .empty
  | tail thread pick early moved ih =>
      rcases step_eq_some moved with ⟨client, step, there, stepped, rfl, rfl⟩
      rcases (moves there stepped).advances with ⟨between, turn, -⟩
      have more := turn.served ((accounted positive early).consistent.fits thread) ih
      simpa [Function.comp_def] using more

/-- No thread is about to come back with a fault from its call. -/
theorem calls_ne_faulted {capacity : Count} (positive : 0 < capacity.toNat) {tasks : List Task}
    {events : List Event} {last : Session}
    (run : system.Run (opening capacity.toNat tasks) events last) (thread : Nat) (fault : Fault) :
    last.calls thread ≠ .push (.leaving (.faulted fault)) ∧
      last.calls thread ≠ .pop (.leaving (.error fault)) := by
  have ground := ((accounted positive run).consistent.fits thread).ground
  constructor
  · intro there
    rw [there] at ground
    exact ground
  · intro there
    rw [there] at ground
    exact ground

/-- A pop comes back with nothing only from a queue that is cancelled or empty. -/
theorem cancelled_or_empty_of_none {capacity : Count} (positive : 0 < capacity.toNat)
    {tasks : List Task} {events : List Event} {last : Session}
    (run : system.Run (opening capacity.toNat tasks) events last) {thread : Nat}
    (there : last.calls thread = .pop (.leaving (.ok none))) :
    last.queue.cancelled = true ∨ last.queue.ring.toList = [] := by
  have consistent := (accounted positive run).consistent
  have ground := (consistent.fits thread).ground
  rw [there] at ground
  rcases ground with cancelled | ⟨-, empty⟩
  · exact Or.inl cancelled
  · rw [consistent.ring.count_eq] at empty
    exact Or.inr (List.eq_nil_of_length_eq_zero empty)

/-- A ring into which items are put only while it is not full, and from which they are taken only
while it is not empty, is a bounded list: its slots are in use from the head onwards without a gap
and all others are empty, putting adds an item at the end, taking removes the first, and neither
finds its slot in the wrong state.  In every state that the threads around a queue can reach, the
ring has been served in this way; so no thread faults in its call, and a pop that is about to come
back with nothing leaves a queue that is cancelled or empty. -/
theorem ring_serves_as_bounded_list (α : Type) (capacity : Count)
    (positive : 0 < capacity.toNat) :
    (∀ (placed taken : List α) (ring : Queue.Ring α), Ring.Served capacity.toNat placed taken ring →
      ring.Tidy capacity.toNat ∧ placed = taken ++ ring.toList ∧
        (∀ item, ring.isFull = false → ∃ next, ring.put item = .ok next ∧
          next.toList = ring.toList ++ [item]) ∧
        (0 < ring.count → ∃ item next, ring.take = .ok (item, next) ∧
          ring.toList = item :: next.toList)) ∧
    ∀ (tasks : List Task) (events : List Event) (last : Session),
      system.Run (opening capacity.toNat tasks) events last →
      Ring.Served capacity.toNat ((puts events).map Prod.snd) ((takes events).map Prod.snd)
          last.queue.ring ∧
        (∀ thread fault, last.calls thread ≠ .push (.leaving (.faulted fault)) ∧
          last.calls thread ≠ .pop (.leaving (.error fault))) ∧
        ∀ thread, last.calls thread = .pop (.leaving (.ok none)) →
          last.queue.cancelled = true ∨ last.queue.ring.toList = [] := by
  constructor
  · intro placed taken ring served
    rcases served.valid positive with ⟨valid, slots, items⟩
    refine ⟨slots ▸ valid.tidy, items, ?_, ?_⟩
    · intro item room
      rcases valid.put item room with ⟨next, done, -, -, more⟩
      exact ⟨next, done, more⟩
    · intro filled
      rcases valid.take filled.ne' with ⟨item, next, done, -, -, fewer⟩
      exact ⟨item, next, done, fewer⟩
  · intro tasks events last run
    exact ⟨served positive run, calls_ne_faulted positive run, fun thread there =>
      cancelled_or_empty_of_none positive run there⟩

/-- Three items go through a ring of two slots.  The third is put into the slot that the first has
left; the ring is full then, with head and tail at one slot, as they are when it is empty. -/
theorem ring_serves_as_bounded_list_of_wraparound :
    let tasks : List Task := [.push "a", .push "b", .push "c", .pop]
    let settled := (opening 2 tasks).settle
    settled.1.queue.ring.head = 1 ∧ settled.1.queue.ring.tail = 1 ∧
      settled.1.queue.ring.Tidy 2 ∧
      (puts settled.2).map Prod.snd = ["a", "b", "c"] ∧
      (puts settled.2).map Prod.snd =
        (takes settled.2).map Prod.snd ++ settled.1.queue.ring.toList ∧
      ∃ next, settled.1.queue.ring.take = .ok ("b", next) ∧ next.toList = ["c"] := by
  intro tasks settled
  have serves := ring_serves_as_bounded_list String ⟨2, by decide⟩ (by decide)
  have served := (serves.2 tasks settled.2 settled.1 (System.run_settle ..)).1
  rcases serves.1 _ _ _ served with ⟨tidy, items, -, take⟩
  have left : settled.1.queue.ring.toList = ["b", "c"] := by decide +kernel
  rcases take (by decide +kernel) with ⟨item, next, done, fewer⟩
  rcases List.cons.inj (left.symm.trans fewer) with ⟨rfl, rest⟩
  exact ⟨by decide +kernel, by decide +kernel, tidy, by decide +kernel, items, next, done,
    rest.symm⟩

end LineTally.Session
