import LineTally.Proofs.Queue.Consistency

/-!
# Why nobody sleeps for too long

A push wakes one reader and a pop wakes one writer, and a thread that was just passing by may take
what the woken one was woken for.  It is still enough.  While a reader sleeps, there are at least as
many threads on their way to an item as there are items, and while a writer sleeps and the stream
has not ended, at least as many threads on their way to a slot as there are free slots.  Marking the
end of the stream leaves no reader asleep.  A cancelled queue has nobody asleep, and nobody about to
fall asleep, as soon as no call that cancels it has still to wake the sleepers.

Setting the flag alone breaks the last of these, so no thread may do that here.
-/

namespace LineTally.Queue

variable {ι α : Type}

open Call

namespace Call

/-- A thread that is awake in a pop and has not found out that there is nothing to take. -/
def SeeksItem (queue : Queue ι α) (me : ι) : Call α → Prop
  | .pop .sleeping => me ∉ queue.readers
  | .pop .testing | .pop .deciding | .pop .taking => True
  | _ => False

/-- A thread that is awake in a push and has not found out that there is no room. -/
def SeeksRoom (queue : Queue ι α) (me : ι) : Call α → Prop
  | .push (.sleeping _) => me ∉ queue.writers
  | .push (.testing _) | .push (.deciding _) | .push (.placing _) => True
  | _ => False

/-- A thread that has set the flag and is going to wake all sleepers. -/
def Wakes : Call α → Prop
  | .cancel (.arriving _) | .cancel (.waking _) => True
  | _ => False

/-- A thread that is about to fall asleep. -/
def Settles : Call α → Prop
  | .push (.settling _) | .pop .settling => True
  | _ => False

theorem Settles.holdsLock {call : Call α} (settles : call.Settles) : call.holdsLock = true := by
  unfold Settles at settles
  split at settles
  · rfl
  · rfl
  · exact settles.elim

/-- A thread that goes on to another call was, and is, none of these. -/
theorem Leads.seeks {before after : Call α} (leads : before.Leads after) (queue : Queue ι α)
    (me : ι) :
    (before.SeeksItem queue me → after.SeeksItem queue me) ∧
      (before.SeeksRoom queue me → after.SeeksRoom queue me) ∧
      (before.Wakes → after.Wakes) ∧ (after.Settles → before.Settles) := by
  rcases leads with rfl | ⟨idle, start⟩
  · exact ⟨id, id, id, id⟩
  · refine ⟨?_, ?_, ?_, ?_⟩
    · intro seeks
      cases idle <;> exact seeks.elim
    · intro seeks
      cases idle <;> exact seeks.elim
    · intro wakes
      cases idle <;> exact wakes.elim
    · intro settles
      cases start <;> exact settles.elim

end Call

/-- While anybody sleeps, there are at least that many different threads that seek. -/
def Covered (sleepers : List ι) (seeks : ι → Prop) (amount : Nat) : Prop :=
  sleepers ≠ [] → ∃ seekers : List ι,
    seekers.Nodup ∧ (∀ thread ∈ seekers, seeks thread) ∧ amount ≤ seekers.length

namespace Covered

variable {sleepers others : List ι} {seeks seeks' : ι → Prop} {amount amount' : Nat}

theorem nil : Covered [] seeks amount := fun asleep => absurd rfl asleep

theorem zero : Covered sleepers seeks 0 := fun _ => ⟨[], by simp⟩

/-- Where nobody seeks, nothing is left for those who sleep. -/
theorem eq_zero (covered : Covered sleepers seeks amount) (asleep : sleepers ≠ [])
    (still : ∀ thread, ¬ seeks thread) : amount = 0 := by
  rcases covered asleep with ⟨seekers, -, all, enough⟩
  cases seekers with
  | nil => exact Nat.le_zero.mp enough
  | cons thread others => exact absurd (all thread (by simp)) (still thread)

theorem fewer (covered : Covered sleepers seeks amount) (less : amount' ≤ amount) :
    Covered sleepers seeks amount' := by
  intro asleep
  rcases covered asleep with ⟨seekers, distinct, all, enough⟩
  exact ⟨seekers, distinct, all, less.trans enough⟩

theorem mono (covered : Covered sleepers seeks amount)
    (seeking : ∀ thread, seeks thread → seeks' thread) : Covered sleepers seeks' amount := by
  intro asleep
  rcases covered asleep with ⟨seekers, distinct, all, enough⟩
  exact ⟨seekers, distinct, fun thread member => seeking thread (all thread member), enough⟩

/-- One of the threads may stop seeking when it got what it wanted. -/
theorem served (covered : Covered sleepers seeks (amount + 1)) (me : ι)
    (seeking : ∀ thread, thread ≠ me → seeks thread → seeks' thread) :
    Covered sleepers seeks' amount := by
  classical
  intro asleep
  rcases covered asleep with ⟨seekers, distinct, all, enough⟩
  refine ⟨seekers.erase me, distinct.erase me, ?_, ?_⟩
  · intro thread member
    rw [distinct.mem_erase_iff] at member
    exact seeking thread member.1 (all thread member.2)
  · have := List.le_length_erase (a := me) (l := seekers)
    omega

/-- There may be more to seek when one more thread is woken. -/
theorem woken (covered : Covered sleepers seeks amount) (pick : Nat)
    (distinct : sleepers.Nodup) (asleep : ∀ thread ∈ sleepers, ¬ seeks thread)
    (seeking : ∀ thread, seeks thread → seeks' thread)
    (awake : ∀ thread ∈ sleepers, thread ∉ wakeOne sleepers pick → seeks' thread) :
    Covered (wakeOne sleepers pick) seeks' (amount + 1) := by
  intro left
  have some : sleepers ≠ [] := by
    rintro rfl
    exact left rfl
  rcases covered some with ⟨seekers, different, all, enough⟩
  have inside : pick % sleepers.length < sleepers.length :=
    Nat.mod_lt _ (List.length_pos_of_ne_nil some)
  have member := List.getElem_mem inside
  refine ⟨sleepers[pick % sleepers.length] :: seekers, ?_, ?_, ?_⟩
  · apply List.nodup_cons.mpr
    exact ⟨fun seeker => asleep _ member (all _ seeker), different⟩
  · intro thread among
    rcases List.mem_cons.mp among with rfl | seeker
    · apply awake _ member
      intro still
      rcases List.mem_eraseIdx_iff_getElem.mp still with ⟨place, here, elsewhere, same⟩
      exact elsewhere ((distinct.getElem_inj_iff).mp same)
    · exact seeking thread (all thread seeker)
  · simpa using enough

end Covered

/-- Nobody sleeps through what should have woken somebody. -/
structure Attended (queue : Queue ι α) (calls : ι → Call α) : Prop where
  readers : queue.cancelled = false →
    Covered queue.readers (fun thread => (calls thread).SeeksItem queue thread) queue.ring.count
  writers : queue.cancelled = false → queue.ended = false →
    Covered queue.writers (fun thread => (calls thread).SeeksRoom queue thread)
      (queue.ring.capacity - queue.ring.count)
  ended : queue.ended = true → queue.readers = []
  cancelled : queue.cancelled = true → (∃ thread, (calls thread).Wakes) ∨
    queue.writers = [] ∧ queue.readers = [] ∧ ∀ thread, ¬ (calls thread).Settles

theorem Call.SeeksItem.spared {queue next : Queue ι α} {other : ι} {call : Call α}
    (seeks : call.SeeksItem queue other) (spares : Spares other queue next) :
    call.SeeksItem next other := by
  unfold SeeksItem at seeks ⊢
  split at seeks
  · exact fun asleep => seeks (spares.reader asleep)
  · trivial
  · trivial
  · trivial
  · exact seeks

theorem Call.SeeksRoom.spared {queue next : Queue ι α} {other : ι} {call : Call α}
    (seeks : call.SeeksRoom queue other) (spares : Spares other queue next) :
    call.SeeksRoom next other := by
  unfold SeeksRoom at seeks ⊢
  split at seeks
  · exact fun asleep => seeks (spares.writer asleep)
  · trivial
  · trivial
  · trivial
  · exact seeks

section Moves

variable {queue next : Queue ι α} {calls calls' : ι → Call α} {me : ι}
variable {transfer : Option (Transfer α)}

/-- A thread that sleeps as a reader does not seek, and seeks when it is woken. -/
theorem Consistent.reader_seeks (consistent : Consistent queue calls) {thread : ι}
    (asleep : thread ∈ queue.readers) (next : Queue ι α) :
    (calls thread).SeeksItem next thread ↔ thread ∉ next.readers := by
  rw [(consistent.fits thread).reader asleep]
  rfl

theorem Consistent.writer_seeks (consistent : Consistent queue calls) {thread : ι}
    (asleep : thread ∈ queue.writers) (next : Queue ι α) :
    (calls thread).SeeksRoom next thread ↔ thread ∉ next.writers := by
  rcases (consistent.fits thread).writer asleep with ⟨item, there⟩
  rw [there]
  rfl

/-- What holds of every thread in its call is kept by a move if the thread that moves keeps it, and
so do the others where they are. -/
theorem keeps_of_others (holds holds' : ι → Call α → Prop)
    (others : ∀ other, other ≠ me → calls' other = calls other)
    (apart : ∀ thread, thread ≠ me → holds thread (calls thread) → holds' thread (calls thread))
    (own : holds me (calls me) → holds' me (calls' me)) :
    ∀ thread, holds thread (calls thread) → holds' thread (calls' thread) := by
  intro thread held
  by_cases same : thread = me
  · subst same
    exact own held
  · rw [others thread same]
    exact apart thread same held

theorem Turn.count {call after : Call α} (turn : Turn me queue call transfer next after)
    (valid : queue.ring.Valid) (fits : Fits queue me call) :
    next.ring.count + (departed transfer).length =
      queue.ring.count + (entered transfer).length := by
  rcases turn.ring valid fits with ⟨sound, -, items⟩
  have lengths := congrArg List.length items
  rw [List.length_append, List.length_append] at lengths
  rw [sound.count_eq, valid.count_eq]
  omega

/-- While a reader sleeps, no fewer threads seek an item than there are items. -/
theorem Attended.readers_of_moves (attended : Attended queue calls)
    (consistent : Consistent queue calls)
    (moves : Moves me queue calls transfer next calls') (clear : next.cancelled = false) :
    Covered next.readers (fun thread => (calls' thread).SeeksItem next thread)
      next.ring.count := by
  rcases moves with ⟨⟨between, turn, leads⟩, others⟩
  have mine := consistent.fits me
  have apart : ∀ thread, thread ≠ me → (calls thread).SeeksItem queue thread →
      (calls thread).SeeksItem next thread :=
    fun thread different seeks => seeks.spared (turn.spares mine different)
  have keeps (own : (calls me).SeeksItem queue me → between.SeeksItem next me) :=
    keeps_of_others (fun thread call => call.SeeksItem queue thread)
      (fun thread call => call.SeeksItem next thread) others apart
      (fun seeks => (leads.seeks next me).1 (own seeks))
  have covered := attended.readers
  have ground := mine.ground
  have count := turn.count consistent.ring mine
  generalize there : calls me = before at turn keeps ground mine
  cases turn with
  | stays | pushEnters | pushReenters | pushFindsFull | pushGoesOn | pushSleeps | pushCleared
  | pushClosed | pushFaults | pushLeaves | popEnters | popReenters | popGoesOn | popCleared
  | popLeaves | endEnters | endRepeats | endLeaves | cancelEnters | cancelLeaves =>
      exact (covered clear).mono (keeps (by simp [SeeksItem]))
  | popFindsNone empty | popDrained empty =>
      rw [empty]
      exact .zero
  | popSleeps =>
      have empty : queue.ring.count = 0 := ground.1
      simp only [sleepAsReader, empty]
      exact .zero
  | @pushPlaces item ring pick =>
      have more : ring.count = queue.ring.count + 1 := count
      simp only [more]
      apply (covered clear).woken pick consistent.readers
      · intro thread asleep
        simp [consistent.reader_seeks asleep, asleep]
      · exact keeps (by simp [SeeksItem])
      · intro thread asleep awake
        have other : thread ≠ me := by
          rintro rfl
          simpa [there] using (consistent.fits thread).reader asleep
        rw [others thread other]
        exact (consistent.reader_seeks asleep _).mpr awake
  | @popTakes item ring =>
      have fewer : ring.count + 1 = queue.ring.count := count
      have covered := covered clear
      rw [← fewer] at covered
      apply covered.served me
      intro thread different seeks
      rw [others thread different]
      exact apart thread different seeks
  | popFaults filled take =>
      rcases consistent.ring.take filled with ⟨item, ring, taken, -⟩
      cases taken.symm.trans take
  | endMarks | cancelWakes => exact .nil
  | pushCancelled cancelled | popCancelled cancelled =>
      simp [cancelled] at clear
  | cancelRaises | raises => cases clear

/-- While a writer sleeps, no fewer threads seek room than there are free slots, apart from those
that were passed up: a push that finds the stream ended leaves the slot it was woken for free, and
wakes nobody. -/
theorem Consistent.writers_of_moves {passed passed' : Nat} (consistent : Consistent queue calls)
    (covered : Covered queue.writers (fun thread => (calls thread).SeeksRoom queue thread)
      (queue.ring.capacity - queue.ring.count - passed))
    (moves : Moves me queue calls transfer next calls') (clear : next.cancelled = false)
    (more : passed ≤ passed')
    (closed : ∀ item, calls me = .push (.placing item) → queue.ended = true →
      passed < passed') :
    Covered next.writers (fun thread => (calls' thread).SeeksRoom next thread)
      (next.ring.capacity - next.ring.count - passed') := by
  rcases moves with ⟨⟨between, turn, leads⟩, others⟩
  have mine := consistent.fits me
  have apart : ∀ thread, thread ≠ me → (calls thread).SeeksRoom queue thread →
      (calls thread).SeeksRoom next thread :=
    fun thread different seeks => seeks.spared (turn.spares mine different)
  have keeps (own : (calls me).SeeksRoom queue me → between.SeeksRoom next me) :=
    keeps_of_others (fun thread call => call.SeeksRoom queue thread)
      (fun thread call => call.SeeksRoom next thread) others apart
      (fun seeks => (leads.seeks next me).2.1 (own seeks))
  have served {amount : Nat} (less : amount + 1 ≤ queue.ring.capacity - queue.ring.count - passed) :
      Covered queue.writers (fun thread => (calls' thread).SeeksRoom next thread) amount := by
    apply (covered.fewer less).served me
    intro thread different seeks
    rw [others thread different]
    exact apart thread different seeks
  have ground := mine.ground
  have count := turn.count consistent.ring mine
  have full : queue.ring.isFull = true → queue.ring.capacity - queue.ring.count = 0 := by
    intro full
    rw [consistent.ring.count_eq, consistent.ring.isFull_iff.mp full, Nat.sub_self]
  have less : queue.ring.capacity - queue.ring.count - passed' ≤
      queue.ring.capacity - queue.ring.count - passed := Nat.sub_le_sub_left more _
  rcases turn.ring consistent.ring mine with ⟨sound, capacity, -⟩
  generalize there : calls me = before at turn keeps ground mine closed
  cases turn with
  | stays | pushEnters | pushReenters | pushGoesOn | pushCleared | pushLeaves
  | popEnters | popReenters | popFindsNone | popGoesOn | popSleeps | popCleared | popDrained
  | popFaults | popLeaves | endEnters | endRepeats | endMarks | endLeaves | cancelEnters
  | cancelLeaves =>
      exact (covered.fewer less).mono (keeps (by simp [SeeksRoom]))
  | pushFindsFull found =>
      rw [full found, Nat.zero_sub]
      exact .zero
  | pushSleeps =>
      simp only [sleepAsWriter, full ground, Nat.zero_sub]
      exact .zero
  | pushClosed ended =>
      have beyond := closed _ rfl ended
      by_cases none : queue.ring.capacity - queue.ring.count - passed' = 0
      · rw [none]
        exact .zero
      · exact served (by omega)
  | @pushPlaces item ring =>
      have more : ring.count = queue.ring.count + 1 := count
      have capacity : ring.capacity = queue.ring.capacity := capacity
      by_cases none : ring.capacity - ring.count - passed' = 0
      · simp only [none]
        exact .zero
      · exact served (by simp only; omega)
  | @popTakes item ring pick =>
      have one : ring.count + 1 = queue.ring.count := count
      have capacity : ring.capacity = queue.ring.capacity := capacity
      have woken : Covered (wakeOne queue.writers pick)
          (fun thread => (calls' thread).SeeksRoom
            { queue with ring, writers := wakeOne queue.writers pick } thread)
          (queue.ring.capacity - queue.ring.count - passed + 1) := by
        apply covered.woken pick consistent.writers
        · intro thread asleep
          simp [consistent.writer_seeks asleep, asleep]
        · exact keeps (by simp [SeeksRoom])
        · intro thread asleep awake
          have other : thread ≠ me := by
            rintro rfl
            rcases (consistent.fits thread).writer asleep with ⟨item, elsewhere⟩
            simp [there] at elsewhere
          rw [others thread other]
          exact (consistent.writer_seeks asleep _).mpr awake
      exact woken.fewer (by simp only; omega)
  | pushFaults put =>
      rcases consistent.ring.put _ ground with ⟨ring, placed, -⟩
      cases placed.symm.trans put
  | cancelWakes => exact .nil
  | pushCancelled cancelled | popCancelled cancelled =>
      simp [cancelled] at clear
  | cancelRaises | raises => cases clear

/-- While a writer sleeps and the stream has not ended, no fewer threads seek room than there are
free slots. -/
theorem Attended.writers_of_moves (attended : Attended queue calls)
    (consistent : Consistent queue calls)
    (moves : Moves me queue calls transfer next calls') (clear : next.cancelled = false)
    (open_ : next.ended = false) :
    Covered next.writers (fun thread => (calls' thread).SeeksRoom next thread)
      (next.ring.capacity - next.ring.count) := by
  have unflagged : queue.cancelled = false := by
    by_contra set
    simp [moves.advances.cancelled_mono (by simpa using set)] at clear
  have unended : queue.ended = false := by
    by_contra marked
    simp [moves.advances.ended_mono (by simpa using marked)] at open_
  apply consistent.writers_of_moves (attended.writers unflagged unended) moves clear
    (Nat.le_refl 0)
  intro item _ ended
  simp [ended] at unended

/-- The only sleeper is the one that is woken. -/
theorem wakeOne_eq_nil {sleepers : List ι} (alone : sleepers.length ≤ 1) (pick : Nat) :
    wakeOne sleepers pick = [] := by
  match sleepers, alone with
  | [], _ => rfl
  | [only], _ => simp [wakeOne, Nat.mod_one]

/-- As long as no two writers sleep at the same time, one sleeps only at a full queue, whether or not
the stream has ended: the pop that makes room wakes the only sleeper. -/
theorem Consistent.full_of_moves (consistent : Consistent queue calls)
    (moves : Moves me queue calls transfer next calls') (alone : queue.writers.length ≤ 1)
    (full : queue.writers ≠ [] → queue.ring.isFull = true) (asleep : next.writers ≠ []) :
    next.ring.isFull = true := by
  rcases moves.advances with ⟨between, turn, -⟩
  have ground := (consistent.fits me).ground
  generalize calls me = before at turn ground
  cases turn with
  | pushSleeps => exact ground
  | pushPlaces =>
      have room : queue.ring.isFull = false := ground
      simp [full asleep] at room
  | popTakes =>
      exact absurd (wakeOne_eq_nil alone _) asleep
  | cancelWakes => exact absurd rfl asleep
  | _ => exact full asleep

/-- An ended stream has no reader asleep. -/
theorem Attended.ended_of_moves (attended : Attended queue calls)
    (consistent : Consistent queue calls)
    (moves : Moves me queue calls transfer next calls') (marked : next.ended = true) :
    next.readers = [] := by
  rcases moves with ⟨⟨between, turn, -⟩, -⟩
  have ended := attended.ended
  have ground := (consistent.fits me).ground
  generalize calls me = before at turn ground
  cases turn with
  | popSleeps =>
      have unended : queue.ended = false := ground.2
      simp [sleepAsReader, unended] at marked
  | pushPlaces pick unended => simp [unended] at marked
  | endMarks | cancelWakes => rfl
  | _ => exact ended marked

/-- A cancelled queue has somebody left who will wake the sleepers, or there are none. -/
theorem Attended.cancelled_of_moves (attended : Attended queue calls)
    (consistent : Consistent queue calls)
    (moves : Moves me queue calls transfer next calls') (careful : calls me ≠ .raiseFlag)
    (set : next.cancelled = true) :
    (∃ thread, (calls' thread).Wakes) ∨
      next.writers = [] ∧ next.readers = [] ∧ ∀ thread, ¬ (calls' thread).Settles := by
  rcases moves with ⟨⟨between, turn, leads⟩, others⟩
  have mine := consistent.fits me
  have lead := leads.seeks next me
  have before := attended.cancelled
  have keeps (set : queue.cancelled = true) (own : (calls me).Wakes → between.Wakes)
      (settles : between.Settles → (calls me).Settles)
      (calm : ¬ (calls me).Settles → queue.writers = [] → queue.readers = [] →
        next.writers = [] ∧ next.readers = []) :
      (∃ thread, (calls' thread).Wakes) ∨
        next.writers = [] ∧ next.readers = [] ∧ ∀ thread, ¬ (calls' thread).Settles := by
    rcases before set with ⟨thread, wakes⟩ | ⟨writers, readers, still⟩
    · exact Or.inl ⟨thread, keeps_of_others (fun _ call => call.Wakes) (fun _ call => call.Wakes)
        others (fun _ _ => id) (fun wakes => lead.2.2.1 (own wakes)) thread wakes⟩
    · rcases calm (still me) writers readers with ⟨writers, readers⟩
      refine Or.inr ⟨writers, readers, ?_⟩
      intro thread settling
      by_cases same : thread = me
      · subst same
        exact still thread (settles (lead.2.2.2 settling))
      · rw [others thread same] at settling
        exact still thread settling
  generalize there : calls me = before at turn keeps mine careful
  cases turn with
  | pushFindsFull _ clear | popFindsNone _ _ clear => simp [clear] at set
  | pushSleeps | popSleeps =>
      exact keeps set (by simp [Wakes]) (by simp [Settles]) (by simp [Settles])
  | pushPlaces pick | popTakes pick =>
      exact keeps set (by simp [Wakes]) (by simp [Settles]) fun _ writers readers =>
        ⟨by simp [writers, wakeOne], by simp [readers, wakeOne]⟩
  | endMarks =>
      exact keeps set (by simp [Wakes]) (by simp [Settles]) fun _ writers _ => ⟨writers, rfl⟩
  | cancelRaises => exact Or.inl ⟨me, lead.2.2.1 trivial⟩
  | cancelWakes =>
      refine Or.inr ⟨rfl, rfl, ?_⟩
      intro thread settling
      by_cases same : thread = me
      · subst same
        exact lead.2.2.2 settling
      · rw [others thread same] at settling
        have held := (consistent.fits thread).lock.mpr settling.holdsLock
        exact same (Option.some.inj (held.symm.trans (mine.lock.mpr rfl)))
  | raises => exact absurd rfl careful
  | _ =>
      exact keeps set (by simp [Wakes]) (by simp [Settles]) fun _ writers readers =>
        ⟨writers, readers⟩

theorem Attended.moves (attended : Attended queue calls) (consistent : Consistent queue calls)
    (moves : Moves me queue calls transfer next calls') (careful : calls me ≠ .raiseFlag) :
    Attended next calls' where
  readers := attended.readers_of_moves consistent moves
  writers := attended.writers_of_moves consistent moves
  ended := attended.ended_of_moves consistent moves
  cancelled := attended.cancelled_of_moves consistent moves careful

end Moves

/-- In the beginning nobody sleeps. -/
theorem Attended.start (capacity : Nat) (calls : ι → Call α) :
    Attended (empty capacity) calls where
  readers _ := .nil
  writers _ _ := .nil
  ended _ := rfl
  cancelled flagged := by cases flagged

/-! ## Threads without a step -/

/-- A thread has no step in its call: it needs the lock, which is taken, or it sleeps. -/
def Call.Waits (queue : Queue ι α) (me : ι) : Call α → Prop
  | .push (.arriving _) | .pop .arriving | .endStream .arriving | .cancel (.arriving _) =>
      queue.holder ≠ none
  | .push (.sleeping _) => me ∈ queue.writers ∨ queue.holder ≠ none
  | .pop .sleeping => me ∈ queue.readers ∨ queue.holder ≠ none
  | _ => False

theorem Call.Waits.holdsLock {queue : Queue ι α} {me : ι} {call : Call α}
    (waits : call.Waits queue me) : call.holdsLock = false := by
  unfold Waits at waits
  split at waits
  · rfl
  · rfl
  · rfl
  · rfl
  · rfl
  · rfl
  · exact waits.elim

/-- A thread that has no step although the lock is free sleeps. -/
theorem Call.Waits.asleep {queue : Queue ι α} {me : ι} {call : Call α}
    (waits : call.Waits queue me) (free : queue.holder = none) :
    (∃ item, call = .push (.sleeping item)) ∧ me ∈ queue.writers ∨
      call = .pop .sleeping ∧ me ∈ queue.readers := by
  unfold Waits at waits
  split at waits
  case h_5 item => exact Or.inl ⟨⟨item, rfl⟩, waits.resolve_right (by simp [free])⟩
  case h_6 => exact Or.inr ⟨rfl, waits.resolve_right (by simp [free])⟩
  case h_7 => exact waits.elim
  all_goals exact absurd free waits

theorem holder_ne_none {queue : Queue ι α} {me : ι} (refused : queue.lock? me = none) :
    queue.holder ≠ none := by
  intro free
  simp [lock?, free] at refused

theorem EndStream.waits {queue : Queue ι α} {me : ι} {call : EndStream}
    (stuck : call.step queue me = none) : (Call.endStream call : Call α).Waits queue me := by
  cases call with
  | arriving => exact holder_ne_none (Option.map_eq_none_iff.mp stuck)
  | marking =>
      simp only [EndStream.step] at stuck
      split at stuck
      · cases stuck
      · cases stuck
  | leaving first => cases stuck

theorem Cancel.waits {queue : Queue ι α} {me : ι} {call : Cancel}
    (stuck : call.step queue me = none) : (Call.cancel call : Call α).Waits queue me := by
  cases call with
  | arriving first => exact holder_ne_none (Option.map_eq_none_iff.mp stuck)
  | raising | waking | leaving => cases stuck

theorem Acting.waits {queue : Queue ι α} {me : ι} {acting : Acting}
    (stuck : acting.step queue me = none) : (acting.call : Call α).Waits queue me := by
  cases acting with
  | cancelling call | shuttingDown call => exact Cancel.waits (Option.map_eq_none_iff.mp stuck)
  | ending call => exact EndStream.waits (Option.map_eq_none_iff.mp stuck)
  | raisingFlag => cases stuck

section

variable [DecidableEq ι]

theorem Push.waits {queue : Queue ι α} {me : ι} {pick : Nat} {push : Push α}
    (stuck : push.step queue me pick = none) : (Call.push push).Waits queue me := by
  cases push with
  | arriving item => exact holder_ne_none (Option.map_eq_none_iff.mp stuck)
  | sleeping item =>
      simp only [Push.step] at stuck
      split at stuck
      · exact Or.inl (by assumption)
      · exact Or.inr (holder_ne_none (Option.map_eq_none_iff.mp stuck))
  | testing | settling | deciding | placing | leaving => cases stuck

theorem Pop.waits {queue : Queue ι α} {me : ι} {pick : Nat} {pop : Pop α}
    (stuck : pop.step queue me pick = none) : (Call.pop pop).Waits queue me := by
  cases pop with
  | arriving => exact holder_ne_none (Option.map_eq_none_iff.mp stuck)
  | sleeping =>
      simp only [Pop.step] at stuck
      split at stuck
      · exact Or.inl (by assumption)
      · exact Or.inr (holder_ne_none (Option.map_eq_none_iff.mp stuck))
  | testing | settling | deciding | taking | leaving => cases stuck

end

/-- A thread has not taken a step in its call, or it has none to take. -/
def Call.Rests (queue : Queue ι α) (me : ι) (call : Call α) : Prop :=
  call.Idle ∨ call.Waits queue me

section Rest

variable {queue : Queue ι α} {calls : ι → Call α}

/-- Nobody has the lock if no thread in a call has a step. -/
theorem Consistent.holder_eq_none (consistent : Consistent queue calls)
    (rest : ∀ thread, (calls thread).Rests queue thread) : queue.holder = none := by
  cases held : queue.holder with
  | none => rfl
  | some thread =>
      have holds := (consistent.fits thread).lock.mp held
      rcases rest thread with idle | waits
      · simp [idle.holdsLock_eq] at holds
      · simp [waits.holdsLock] at holds

/-- A thread that has no step although the lock is free is not on its way anywhere. -/
theorem Call.Rests.not_seeking {me : ι} {call : Call α} (rests : call.Rests queue me)
    (free : queue.holder = none) :
    ¬ call.SeeksItem queue me ∧ ¬ call.SeeksRoom queue me ∧ ¬ call.Wakes := by
  rcases rests with idle | waits
  · cases idle <;> exact ⟨id, id, id⟩
  · unfold Waits at waits
    split at waits <;> simp_all [SeeksItem, SeeksRoom, Wakes]

/-- If no thread in a call has a step, nobody sleeps at a cancelled queue. -/
theorem Attended.clear_of_rest (attended : Attended queue calls)
    (consistent : Consistent queue calls) (rest : ∀ thread, (calls thread).Rests queue thread)
    (asleep : queue.readers ≠ [] ∨ queue.writers ≠ []) : queue.cancelled = false := by
  have free := consistent.holder_eq_none rest
  by_contra flagged
  rcases attended.cancelled (by simpa using flagged) with
    ⟨thread, wakes⟩ | ⟨noWriters, noReaders, -⟩
  · exact ((rest thread).not_seeking free).2.2 wakes
  · rcases asleep with readers | writers
    · exact readers noReaders
    · exact writers noWriters

/-- If no thread in a call has a step, readers sleep only at an empty queue that is neither
cancelled nor ended. -/
theorem Attended.reader_rests (attended : Attended queue calls)
    (consistent : Consistent queue calls) (rest : ∀ thread, (calls thread).Rests queue thread)
    (asleep : queue.readers ≠ []) :
    queue.cancelled = false ∧ queue.ended = false ∧ queue.ring.count = 0 := by
  have free := consistent.holder_eq_none rest
  have clear := attended.clear_of_rest consistent rest (Or.inl asleep)
  refine ⟨clear, ?_, ?_⟩
  · by_contra ended
    exact asleep (attended.ended (by simpa using ended))
  · exact (attended.readers clear).eq_zero asleep fun thread =>
      ((rest thread).not_seeking free).1

/-- If no thread in a call has a step, writers sleep only at a queue that is not cancelled, and
before the end of the stream only at a full one. -/
theorem Attended.writer_rests (attended : Attended queue calls)
    (consistent : Consistent queue calls) (rest : ∀ thread, (calls thread).Rests queue thread)
    (asleep : queue.writers ≠ []) :
    queue.cancelled = false ∧
      (queue.ended = false → queue.ring.capacity ≤ queue.ring.count) := by
  have free := consistent.holder_eq_none rest
  have clear := attended.clear_of_rest consistent rest (Or.inr asleep)
  refine ⟨clear, ?_⟩
  intro unended
  apply Nat.sub_eq_zero_iff_le.mp
  exact (attended.writers clear unended).eq_zero asleep fun thread =>
    ((rest thread).not_seeking free).2.1

end Rest

end LineTally.Queue
