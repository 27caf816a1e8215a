import LineTally.Proofs.Scan.Ending
import LineTally.Scan.Waiting

/-!
# The run that is carried out

Of the many runs of a scan one is carried out: in every state the first thread in some order goes
on.  Whether a thread can go on does not hang on what its step picks, and every thread that can go
on is in order.  So the run that is carried out comes to an end only when the scan is over.
-/

namespace LineTally

/-! ## What a step picks -/

namespace Queue

variable {ι α : Type} [DecidableEq ι] (queue : Queue ι α) (me : ι) (pick other : Nat)

theorem Push.isSome_step (call : Push α) :
    (call.step queue me pick).isSome = (call.step queue me other).isSome := by
  cases call <;> rfl

theorem Pop.isSome_step (call : Pop α) :
    (call.step queue me pick).isSome = (call.step queue me other).isSome := by
  cases call <;> rfl

end Queue

theorem Reader.isSome_step {ι : Type} [DecidableEq ι] (queue : Queue ι String) (me : ι)
    (pick other : Nat) (reader : Reader) :
    (reader.step queue me pick).isSome = (reader.step queue me other).isSome := by
  cases reader with
  | pushing source reading push =>
      rw [step, step, Option.isSome_map, Option.isSome_map, Queue.Push.isSome_step]
  | _ => rfl

theorem Consumer.isSome_step {ι : Type} [DecidableEq ι] (predicate : Predicate) (index : Count)
    (queue : Queue ι String) (me : ι) (pick other : Nat) (consumer : Consumer) :
    (consumer.step predicate index queue me pick).isSome =
      (consumer.step predicate index queue me other).isSome := by
  cases consumer with
  | popping counts pop =>
      rw [step, step, Option.isSome_map, Option.isSome_map, Queue.Pop.isSome_step]
  | _ => rfl

namespace Scan

variable {around : Surroundings} {state : State} {thread : Thread}

theorem Worker.isSome_step (around : Surroundings) (shared : Shared) (index : Count)
    (pick other : Nat) (worker : Worker) :
    (worker.step around shared index pick).isSome =
      (worker.step around shared index other).isSome := by
  cases worker with
  | consuming consumer =>
      cases consumer with
      | popping counts pop =>
          simp only [step, Option.isSome_map]
          exact Consumer.isSome_step ..
      | testing | acting | finished => rfl
  | _ => rfl

/-- Whether a thread has a step does not hang on what it picks. -/
theorem isSome_step (around : Surroundings) (thread : Thread) (pick other : Nat) (state : State) :
    ((system around).step thread pick state).isSome =
      ((system around).step thread other state).isSome := by
  cases thread with
  | reader =>
      simp only [system, Option.isSome_map]
      exact Reader.isSome_step ..
  | worker index =>
      simp only [system, Option.bind_eq_bind]
      cases state.workers[index]? with
      | none => rfl
      | some worker =>
          cases Count.ofNat? index with
          | none => rfl
          | some number =>
              have same := worker.isSome_step around state.shared number pick other
              simpa [Option.isSome_bind, Option.any_true] using same
  | requester | coordinator => rfl

/-! ## Who is in order -/

theorem mem_order_of_step {pick : Nat} {moved : State × List Event}
    (stepped : (system around).step thread pick state = some moved) : thread ∈ state.order := by
  cases thread with
  | reader | coordinator => simp [State.order, State.innerOrder]
  | worker index =>
      have inside : index < state.workers.length := by
        by_contra outside
        simp [system, List.getElem?_eq_none (Nat.le_of_not_lt outside)] at stepped
      simpa [State.order, State.innerOrder] using inside
  | requester index =>
      have inside : index < state.requesters.length := by
        by_contra outside
        simp [system, List.getElem?_eq_none (Nat.le_of_not_lt outside)] at stepped
      simpa [State.order, State.innerOrder] using inside

/-- The threads are the same in both orders. -/
theorem mem_readingOrder_of_step {pick : Nat} {moved : State × List Event}
    (stepped : (system around).step thread pick state = some moved) :
    thread ∈ state.readingOrder := by
  have there := mem_order_of_step stepped
  unfold State.readingOrder
  split
  · exact there
  · rw [State.order, List.mem_append] at there
    rcases there with requester | inner
    · exact List.mem_append_left _ requester
    · exact List.mem_append_right _ (List.mem_cons_of_mem _ inner)

/-! ## The end -/

/-- If no thread in order goes on, none does. -/
theorem stuck_of_firstStep? (resting : (system around).firstStep? state state.readingOrder = none) :
    (system around).Stuck state := by
  intro thread pick
  by_contra moves
  rcases Option.ne_none_iff_exists'.mp moves with ⟨moved, stepped⟩
  have stays := System.firstStep?_eq_none_iff.mp resting thread (mem_readingOrder_of_step stepped)
  have goes := isSome_step around thread pick 0 state
  rw [stepped, stays] at goes
  cases goes

/-- Wherever a scan has come to, carrying on for as many steps as there were at its start to take
brings it to its end. -/
theorem over_of_settle (only : around.ShutsDown) {capacity workers : Count}
    (positive : 0 < capacity.toNat) (some : 0 < workers.toNat) {source : List Feed}
    {requests : Nat} {events : List Event}
    (run : (system around).Run (State.start capacity.toNat workers.toNat source requests)
      events state) :
    ((system around).settle State.readingOrder
      ((State.start capacity.toNat workers.toNat source requests).budget around)
      state).1.Over around := by
  have further := run.trans (System.run_settle (system around) State.readingOrder
    ((State.start capacity.toNat workers.toNat source requests).budget around) state)
  apply over_of_stuck (sound_of_run only positive further) (watched_of_run only positive further)
    some
  apply stuck_of_firstStep?
  apply System.firstStep?_settle
  intro number last steps
  rcases run.steps with ⟨early, before⟩
  have bounded := length_le_budget only positive (before.trans steps)
  omega

end Scan

end LineTally
