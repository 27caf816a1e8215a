import LineTally.Proofs.Queue.Consistency

/-!
# How much is left to do at a queue

A thread that is woken may find nothing, and sleep again; so the number of steps that are left
cannot be read off the places of the threads alone.  Here every place has a weight, and a woken
thread weighs more than a sleeping one.  What wakes others pays for it: `crowd` is more than all
sleepers together gain when they are woken.  It is paid for by the item that a push puts or a pop
takes, or by the call that marks the end of the stream or cancels the queue, of which each wakes
others once.  What is to be done about an item after it has been taken, `toil`, is up to the thread
that takes it, and weighs on the queue as long as the item is in the ring.
-/

namespace LineTally.Queue

variable {ι α : Type}

section Eases

variable {crowd : Nat} {toil : α → Nat} {queue next : Queue ι α}

/-- What is left to do about the items in the ring. -/
def hoard (crowd : Nat) (toil : α → Nat) (queue : Queue ι α) : Nat :=
  (queue.ring.toList.map (toil · + crowd)).sum

/-- A step takes something off what its thread and the queue weigh together, after what it costs to
wake others is paid. -/
def Eases (crowd : Nat) (toil : α → Nat) (queue next : Queue ι α) (before after : Nat) : Prop :=
  ∃ wake, (wake = crowd ∨
      wake = 0 ∧ queue.writers ⊆ next.writers ∧ queue.readers ⊆ next.readers) ∧
    after + next.hoard crowd toil + wake < before + queue.hoard crowd toil

/-- A step that does not touch the queue eases if it takes something off its thread. -/
theorem eases_of_lt {before after : Nat} (lighter : after < before) :
    Eases crowd toil queue queue before after :=
  ⟨0, Or.inr ⟨rfl, List.Subset.refl _, List.Subset.refl _⟩, by omega⟩

theorem Eases.mono {before after before' after' : Nat}
    (eases : Eases crowd toil queue next before after)
    (less : after' + before ≤ before' + after) : Eases crowd toil queue next before' after' := by
  rcases eases with ⟨wake, cost, lighter⟩
  exact ⟨wake, cost, by omega⟩

end Eases

variable [DecidableEq ι]

/-- What is left to do in a call. -/
def Call.weight (crowd : Nat) (toil : α → Nat) (queue : Queue ι α) (me : ι) : Call α → Nat
  | .push (.arriving item) => toil item + 2 * crowd + 5
  | .push (.testing item) => toil item + 2 * crowd + 4
  | .push (.settling item) => toil item + 2 * crowd + 3
  | .push (.sleeping item) => toil item + 2 * crowd + if me ∈ queue.writers then 2 else 5
  | .push (.deciding item) => toil item + 2 * crowd + 3
  | .push (.placing item) => toil item + 2 * crowd + 2
  | .push (.leaving _) => 1
  | .pop .arriving => 5
  | .pop .testing => 4
  | .pop .settling => 3
  | .pop .sleeping => if me ∈ queue.readers then 2 else 5
  | .pop .deciding => 3
  | .pop .taking => 2
  | .pop (.leaving result) => ((PopResult.taken result).map toil).sum + 1
  | .endStream .arriving => crowd + 3
  | .endStream .marking => crowd + 2
  | .endStream (.leaving _) => 1
  | .cancel .raising => crowd + 4
  | .cancel (.arriving _) => crowd + 3
  | .cancel (.waking _) => crowd + 2
  | .cancel (.leaving _) => 1
  | .raiseFlag => 1
  | .away => 0

variable {crowd : Nat} {toil : α → Nat} {queue next : Queue ι α} {me : ι}

/-- A turn in a call eases, unless nothing happens. -/
theorem Turn.eases {call after : Call α} {transfer : Option (Transfer α)}
    (turn : Turn me queue call transfer next after) (moved : after ≠ call)
    (valid : queue.ring.Valid) (fits : Fits queue me call) :
    Eases crowd toil queue next (call.weight crowd toil queue me)
      (after.weight crowd toil next me) := by
  have items := (turn.ring valid fits).2.2
  have same := List.Subset.refl queue.writers
  have same' := List.Subset.refl queue.readers
  cases turn with
  | stays => exact absurd rfl moved
  | @pushPlaces item ring pick =>
      refine ⟨crowd, Or.inl rfl, ?_⟩
      have more : ring.toList = queue.ring.toList ++ [item] := items.symm
      simp [Call.weight, hoard, more]
      omega
  | @popTakes item ring pick =>
      refine ⟨crowd, Or.inl rfl, ?_⟩
      have less : queue.ring.toList = item :: ring.toList := by
        simpa [entered, departed] using items
      simp [Call.weight, hoard, less, PopResult.taken]
      omega
  | endMarks | cancelWakes =>
      refine ⟨crowd, Or.inl rfl, ?_⟩
      simp [Call.weight, hoard]
      omega
  | pushReenters awake | popReenters awake =>
      exact ⟨0, Or.inr ⟨rfl, same, same'⟩, by simp [Call.weight, hoard, awake]⟩
  | pushSleeps | popSleeps =>
      refine ⟨0, Or.inr ⟨rfl, ?_, ?_⟩, ?_⟩
      · simp [sleepAsWriter, sleepAsReader]
      · simp [sleepAsWriter, sleepAsReader]
      · simp [Call.weight, hoard, sleepAsWriter, sleepAsReader]
  | _ =>
      refine ⟨0, Or.inr ⟨rfl, same, same'⟩, ?_⟩
      simp [Call.weight, hoard, unlock, raiseFlag, PopResult.taken]
      try omega

/-- The weight of another thread's place grows by little when it is woken, and not at all when
nobody is. -/
theorem Call.weight_le (call : Call α) (other : ι) :
    call.weight crowd toil next other ≤ call.weight crowd toil queue other + 3 := by
  unfold weight
  split <;> grind

theorem Call.weight_le_of_subset (call : Call α) (other : ι)
    (writers : queue.writers ⊆ next.writers) (readers : queue.readers ⊆ next.readers) :
    call.weight crowd toil next other ≤ call.weight crowd toil queue other := by
  have writer := @writers other
  have reader := @readers other
  unfold weight
  split <;> grind

/-! ## Every step in a call is such a turn -/

theorem EndStream.eases {call : EndStream} {move : Move ι α EndStream Bool}
    (stepped : call.step queue me = some move) (valid : queue.ring.Valid)
    (fits : Fits queue me (.endStream call)) :
    Eases crowd toil queue move.queue ((Call.endStream call).weight crowd toil queue me)
      ((move.progress.call .endStream).weight crowd toil move.queue me) :=
  (EndStream.turn stepped).1.eases (EndStream.moves_on stepped) valid fits

theorem Cancel.eases {call : Cancel} {move : Move ι α Cancel Bool}
    (stepped : call.step queue me = some move) (valid : queue.ring.Valid)
    (fits : Fits queue me (.cancel call)) :
    Eases crowd toil queue move.queue ((Call.cancel call).weight crowd toil queue me)
      ((move.progress.call .cancel).weight crowd toil move.queue me) :=
  (Cancel.turn stepped).1.eases (Cancel.moves_on stepped) valid fits

theorem Acting.eases {acting : Acting} {acted : Acted ι α}
    (stepped : acting.step queue me = some acted) (valid : queue.ring.Valid)
    (fits : Fits queue me acting.call) :
    Eases crowd toil queue acted.queue (acting.call.weight crowd toil queue me)
      ((acted.progress.call Acting.call).weight crowd toil acted.queue me) := by
  cases acting with
  | cancelling call | shuttingDown call =>
      rcases Option.map_eq_some_iff.mp stepped with ⟨move, moved, rfl⟩
      have eases : Eases crowd toil queue move.queue _ _ := Cancel.eases moved valid fits
      cases progress : move.progress <;>
        simpa [progress, Progress.call, Acting.call] using eases
  | ending call =>
      rcases Option.map_eq_some_iff.mp stepped with ⟨move, moved, rfl⟩
      have eases : Eases crowd toil queue move.queue _ _ := EndStream.eases moved valid fits
      cases progress : move.progress <;>
        simpa [progress, Progress.call, Acting.call] using eases
  | raisingFlag =>
      cases stepped
      exact Turn.raises.eases (by simp) valid fits

theorem Push.eases {pick : Nat} {push : Push α} {move : Move ι α (Push α) PushResult}
    (stepped : push.step queue me pick = some move) (valid : queue.ring.Valid)
    (fits : Fits queue me (.push push)) :
    Eases crowd toil queue move.queue ((Call.push push).weight crowd toil queue me)
      ((move.progress.call .push).weight crowd toil move.queue me) :=
  (Push.turn stepped).eases (Push.moves_on stepped) valid fits

theorem Pop.eases {pick : Nat} {pop : Pop α} {move : Move ι α (Pop α) (PopResult α)}
    (stepped : pop.step queue me pick = some move) (valid : queue.ring.Valid)
    (fits : Fits queue me (.pop pop)) :
    Eases crowd toil queue move.queue ((Call.pop pop).weight crowd toil queue me)
      ((move.progress.call .pop).weight crowd toil move.queue me) :=
  (Pop.turn stepped).eases (Pop.moves_on stepped) valid fits

end LineTally.Queue
