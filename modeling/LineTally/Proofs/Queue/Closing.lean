import LineTally.Proofs.Queue.Calls

/-!
# Queues that have come to an end

After the end of the stream nothing is put any more, so when the last item is taken the queue stays
empty.  It has stopped then, as it has when it was cancelled, and it never starts again.  A pop that
begins at a queue that has stopped finds nothing, and does not wait for anything but the lock.
-/

namespace LineTally.Queue

variable {ι α : Type}

/-- There is nothing in the queue, and nothing more will come. -/
def Drained (queue : Queue ι α) : Prop :=
  queue.ended = true ∧ queue.ring.count = 0

/-- Nothing will be found in the queue. -/
def Stopped (queue : Queue ι α) : Prop :=
  queue.cancelled = true ∨ queue.Drained

section Advances

variable {queue next : Queue ι α} {me : ι} {before after : Call α}
variable {transfer : Option (Transfer α)}

/-- Nothing is put after the end of the stream. -/
theorem Advances.entered_eq_nil_of_ended
    (advances : Advances me queue before transfer next after) (ended : queue.ended = true) :
    entered transfer = [] := by
  rcases advances with ⟨between, turn, -⟩
  cases turn with
  | pushPlaces _ unended => simp [ended] at unended
  | _ => rfl

/-- What was taken out does not come back. -/
theorem Drained.advances (drained : queue.Drained)
    (advances : Advances me queue before transfer next after) : next.Drained := by
  rcases advances with ⟨between, turn, -⟩
  cases turn with
  | pushPlaces _ unended => simp [drained.1] at unended
  | popTakes _ filled => exact absurd drained.2 filled
  | endMarks => exact ⟨rfl, drained.2⟩
  | _ => exact drained

theorem Stopped.advances (stopped : queue.Stopped)
    (advances : Advances me queue before transfer next after) : next.Stopped :=
  stopped.imp advances.cancelled_mono fun drained => drained.advances advances

end Advances

/-- A pop is one that will find nothing and does not wait for it.  Past its look at the flag, it is
the end of the stream that it has seen. -/
def Pop.Passes (queue : Queue ι α) : Pop α → Prop
  | .settling | .sleeping => False
  | .taking => queue.Drained
  | .leaving result => result = .ok none
  | .arriving | .testing | .deciding => True

/-- The steps that such a pop takes at most. -/
def Pop.left : Pop α → Nat
  | .arriving => 5
  | .testing => 4
  | .deciding => 3
  | .taking => 2
  | .leaving _ => 1
  | .settling | .sleeping => 0

theorem Pop.Passes.advances {queue next : Queue ι α} {me : ι} {before after : Call α}
    {transfer : Option (Transfer α)} {pop : Pop α} (passes : pop.Passes queue)
    (advances : Advances me queue before transfer next after) : pop.Passes next := by
  cases pop with
  | taking => exact Drained.advances passes advances
  | _ => exact passes

/-- A pop at a queue that has stopped takes one of its few steps towards finding nothing. -/
theorem Pop.Passes.step [DecidableEq ι] {queue : Queue ι α} {me : ι} {pick : Nat} {pop : Pop α}
    {move : Move ι α (Pop α) (PopResult α)} (passes : pop.Passes queue) (stopped : queue.Stopped)
    (stepped : pop.step queue me pick = some move) :
    (∃ next, move.progress = .at next ∧ next.Passes move.queue ∧ next.left < pop.left) ∨
      move.progress = .returned (.ok none) ∧ 0 < pop.left := by
  cases pop with
  | arriving =>
      rcases Option.map_eq_some_iff.mp stepped with ⟨next, -, rfl⟩
      exact Or.inl ⟨.testing, rfl, trivial, by simp [left]⟩
  | testing =>
      cases stepped
      have reason : (queue.ring.count == 0 && !queue.ended && !queue.cancelled) = false := by
        rcases stopped with cancelled | ⟨ended, -⟩
        · simp [cancelled]
        · simp [ended]
      exact Or.inl ⟨.deciding, by simp [reason], trivial, by simp [left]⟩
  | deciding =>
      cases stepped
      rcases stopped with cancelled | drained
      · exact Or.inl ⟨.leaving (.ok none), by simp [cancelled], rfl, by simp [left]⟩
      · cases flag : queue.cancelled with
        | true => exact Or.inl ⟨.leaving (.ok none), by simp, rfl, by simp [left]⟩
        | false => exact Or.inl ⟨.taking, by simp, drained, by simp [left]⟩
  | taking =>
      cases stepped
      have empty : queue.ring.count = 0 := passes.2
      simp only [takeOldest, if_pos empty]
      exact Or.inl ⟨.leaving (.ok none), rfl, rfl, by simp [left]⟩
  | leaving result =>
      cases stepped
      cases passes
      exact Or.inr ⟨rfl, by simp [left]⟩
  | settling | sleeping => exact passes.elim

end LineTally.Queue
