import LineTally.Proofs.Queue.Wakeups
import LineTally.Proofs.Scan.Barrier
import LineTally.Proofs.Scan.Shutdown
import LineTally.Proofs.Tally

/-!
# Where the lines of a scan are

Every line that the reader put is in the ring, or one worker took it.  Every worker keeps account of
the lines that it took, in its counts as long as it consumes, and in its slot when it has recorded
its tally.
-/

namespace LineTally.Scan

open Queue

/-! ## The queue and the reader -/

/-- What holds of the queue of a scan, and of the lines that were put into it. -/
structure State.Queued (source : List Entry) (events : List Event) (state : State) : Prop where
  consistent : Consistent state.shared.queue state.calls
  attended : Attended state.shared.queue state.calls
  tame : state.Tame
  items : puts events = (takes events).map Prod.snd ++ state.shared.queue.ring.toList
  reader : state.reader.Account (state.shared.queue.cancelled = true) False source (puts events)

namespace State.Queued

variable {around : Surroundings} {source : List Entry} {state next : State} {thread : Thread}
variable {before events : List Event}

theorem start {capacity : Count} (positive : 0 < capacity.toNat) (workers : Nat)
    (source : List Feed) (requests : Nat) :
    Queued (source.map Feed.entry) []
      (State.start capacity.toNat workers source requests) where
  consistent := Consistent.start positive capacity.toNat_lt
    (calls_start_idle capacity.toNat workers source requests)
  attended := .start capacity.toNat _
  tame := .start capacity.toNat workers source requests
  items := by simp [puts, takes, State.start, Queue.empty]
  reader := Reader.account_start _ _ _

theorem step (only : around.ShutsDown) (queued : state.Queued source before)
    (moved : Moved around state thread next events) : next.Queued source (before ++ events) := by
  have careful := queued.tame.calls thread
  rcases moved.moves with ⟨transfer, moves, put, took⟩
  have items := queued.consistent.items moves
  refine ⟨queued.consistent.moves moves, queued.attended.moves queued.consistent moves careful.1,
    queued.tame.step only moved, ?_, ?_⟩
  · calc puts (before ++ events)
        = (takes before).map Prod.snd ++
            (state.shared.queue.ring.toList ++ entered transfer) := by
          simp [queued.items, put]
      _ = (takes (before ++ events)).map Prod.snd ++ next.shared.queue.ring.toList := by
          rw [items]
          simp [took]
  · have set := moves.advances.cancelled_mono
    rw [puts_append, put]
    by_cases reads : thread = .reader
    · subst reads
      cases moved with
      | reader stepped =>
          rw [← put, puts_readerEvents]
          refine (queued.reader.step stepped (queued.consistent.fits .reader).ground id ?_).1.mono
            set
          intro rest reading push there ended
          have marked := queued.tame.ended.mp ended
          rw [there] at marked
          exact marked
    · rw [moves.advances.entered_eq_nil (careful.2 reads).2, List.append_nil]
      cases moved with
      | reader => exact absurd rfl reads
      | worker | requester | coordinator => exact queued.reader.mono set

/-- There are not more lines on their way than can be counted. -/
theorem length_takes_lt (queued : state.Queued source before) :
    (takes before).length < Count.limit := by
  have fits := queued.reader.puts_prefix.2
  rw [queued.items, List.length_append, List.length_map] at fits
  omega

end State.Queued

/-! ## The workers and their slots -/

/-- What a worker of that number that took these lines has in its slot, and where it is. -/
def Worker.Account (predicate : Predicate) (number : Count) (taken : List String)
    (slot : Option WorkerTally) : Worker → Prop
  | .consuming consumer => slot = none ∧ consumer.Account predicate number taken
  | .recording tally => slot = none ∧ tally.Of predicate number taken
  | _ => ∃ tally, slot = some tally ∧ tally.Of predicate number taken

/-- The worker has recorded its tally. -/
def Worker.hasRecorded : Worker → Bool
  | .consuming _ | .recording _ => false
  | _ => true

theorem Worker.account_iff_of_hasRecorded {predicate : Predicate} {number : Count}
    {taken : List String} {slot : Option WorkerTally} {worker : Worker}
    (recorded : worker.hasRecorded = true) :
    worker.Account predicate number taken slot ↔
      ∃ tally, slot = some tally ∧ tally.Of predicate number taken := by
  cases worker <;> first | exact Iff.rfl | cases recorded

/-- Only a worker that records its tally changes a slot; only one in its loop takes lines. -/
theorem Worker.Turn.cases_slots {around : Surroundings} {shared next : Shared} {number : Count}
    {worker after : Worker} {events : List Event}
    (turn : Worker.Turn around shared number worker next after events) :
    (∃ pick consumer step, worker = .consuming consumer ∧ after = .consuming step.consumer ∧
        consumer.step around.predicate number shared.queue (.worker number.toNat) pick =
          some step ∧
        next.slots = shared.slots ∧ takes events = (departed step.transfer).map (number.toNat, ·)) ∨
      (∃ tally, worker = .consuming (.finished tally) ∧ after = .recording tally ∧
        next.slots = shared.slots ∧ takes events = []) ∨
      (∃ tally, worker = .recording tally ∧ after = .leaving ∧
        next.slots = (shared.slots.record tally).1 ∧ takes events = []) ∨
      worker.hasRecorded = true ∧ after.hasRecorded = true ∧ next.slots = shared.slots ∧
        takes events = [] := by
  have arrives := afterRendezvous_of (·.hasRecorded = true) rfl rfl number.toNat
  cases turn with
  | consumes stepped =>
      exact Or.inl ⟨_, _, _, rfl, rfl, stepped, rfl, takes_consumerEvents ..⟩
  | finishes => exact Or.inr (Or.inl ⟨_, rfl, rfl, rfl, rfl⟩)
  | records => exact Or.inr (Or.inr (Or.inl ⟨_, rfl, rfl, rfl, takes_logged _⟩))
  | meets | resumes => exact Or.inr (Or.inr (Or.inr ⟨rfl, arrives _, rfl, rfl⟩))
  | _ => exact Or.inr (Or.inr (Or.inr ⟨rfl, rfl, rfl, rfl⟩))

/-- What the workers have to do with the lines that were taken, and with their slots. -/
structure State.Manned (around : Surroundings) (taken : List (Nat × String)) (state : State) :
    Prop where
  owners : ∀ entry ∈ taken, entry.1 < state.workers.length
  slots : state.shared.slots.entries.length = state.workers.length
  each : ∀ (index : Nat) (worker : Worker), state.workers[index]? = some worker →
    ∃ number : Count, number.toNat = index ∧
      worker.Account around.predicate number (ofThread index taken)
        (state.shared.slots.get? index)

namespace State.Manned

variable {around : Surroundings} {state : State} {shared : Shared} {number : Count}
variable {worker after : Worker} {taken : List (Nat × String)} {events : List Event}

theorem start (around : Surroundings) (capacity : Nat) (workers : Count) (source : List Feed)
    (requests : Nat) :
    Manned around [] (State.start capacity workers.toNat source requests) where
  owners := by simp
  slots := by simp [State.start, Slots.empty]
  each index worker there := by
    have inside := (List.getElem?_eq_some_iff.mp there).1
    have consuming := List.eq_of_mem_replicate (List.mem_of_getElem? there)
    subst consuming
    simp only [State.start, List.length_replicate] at inside
    refine ⟨⟨index, Nat.lt_trans inside workers.toNat_lt⟩, rfl, ?_⟩
    exact ⟨by simp [State.start, Slots.empty, Slots.get?, inside],
      Consumer.account_start around.predicate _⟩

/-- One worker may take lines and fill its slot, if it accounts for that. -/
theorem replace (manned : state.Manned around taken) (inside : number.toNat < state.workers.length)
    (lines : List String)
    (size : shared.slots.entries.length = state.shared.slots.entries.length)
    (others : ∀ index, index ≠ number.toNat →
      shared.slots.get? index = state.shared.slots.get? index)
    (account : after.Account around.predicate number (ofThread number.toNat taken ++ lines)
      (shared.slots.get? number.toNat)) :
    ({ state with shared, workers := state.workers.set number.toNat after } : State).Manned around
      (taken ++ lines.map (number.toNat, ·)) where
  owners entry member := by
    rw [List.length_set]
    rcases List.mem_append.mp member with before | now
    · exact manned.owners entry before
    · rcases List.mem_map.mp now with ⟨line, -, rfl⟩
      exact inside
  slots := by rw [size, manned.slots, List.length_set]
  each := by
    apply forall_of_set
    · exact ⟨number, rfl, by rwa [ofThread_append, ofThread_map_self]⟩
    · intro index worker different there
      rcases manned.each index worker there with ⟨number, same, account⟩
      refine ⟨number, same, ?_⟩
      rwa [ofThread_append, ofThread_map_ne (Ne.symm different), List.append_nil,
        others index different]

/-- A worker that records its tally fills its own slot. -/
theorem record (manned : state.Manned around taken) {tally : WorkerTally}
    (there : state.workers[number.toNat]? = some (.recording tally)) :
    (state.shared.slots.record tally).1.entries.length = state.shared.slots.entries.length ∧
      (state.shared.slots.record tally).1.get? number.toNat = some tally ∧
      ∀ index, index ≠ number.toNat →
        (state.shared.slots.record tally).1.get? index = state.shared.slots.get? index := by
  rcases manned.each _ _ there with ⟨mine, same, empty, of⟩
  cases Count.ext same
  have mine := of.index_eq
  have inside := (List.getElem?_eq_some_iff.mp there).1
  have within : tally.index.toNat < state.shared.slots.entries.length := by
    rwa [mine, manned.slots]
  have recorded := (Slots.record_of_empty within (mine ▸ empty)).2
  rwa [mine] at recorded

/-- Each worker keeps its account. -/
theorem turn (manned : state.Manned around taken)
    (there : state.workers[number.toNat]? = some worker)
    (turn : Worker.Turn around state.shared number worker shared after events)
    (fits : taken.length < Count.limit)
    (sound : ∀ fault, worker.call ≠ .pop (.leaving (.error fault))) :
    ({ state with shared, workers := state.workers.set number.toNat after } : State).Manned around
      (taken ++ takes events) := by
  rcases manned.each _ _ there with ⟨mine, same, account⟩
  cases Count.ext same
  have inside := (List.getElem?_eq_some_iff.mp there).1
  have quietly (slots : shared.slots = state.shared.slots) (silent : takes events = [])
      (account : after.Account around.predicate number (ofThread number.toNat taken)
        (state.shared.slots.get? number.toNat)) :
      ({ state with shared, workers := state.workers.set number.toNat after } : State).Manned
        around (taken ++ takes events) := by
    rw [silent]
    refine manned.replace inside [] (by rw [slots]) (fun _ _ => by rw [slots]) ?_
    rwa [List.append_nil, slots]
  rcases turn.cases_slots with ⟨pick, consumer, step, rfl, rfl, stepped, slots, took⟩ |
    ⟨tally, rfl, rfl, slots, silent⟩ | ⟨tally, rfl, rfl, slots, silent⟩ |
    ⟨before, behind, slots, silent⟩
  · rcases account with ⟨empty, account⟩
    have short : (ofThread number.toNat taken).length < Count.limit := by
      refine lt_of_le_of_lt ?_ fits
      rw [ofThread, List.length_map]
      exact List.length_filter_le ..
    have account := (account.step stepped short sound).1
    rw [took]
    refine manned.replace inside _ (by rw [slots]) (fun _ _ => by rw [slots]) ?_
    rw [slots]
    exact ⟨empty, account⟩
  · exact quietly slots silent account
  · rcases manned.record there with ⟨size, filled, others⟩
    rw [silent]
    refine manned.replace inside [] (by rw [slots, size]) ?_ ?_
    · intro index different
      rw [slots, others index different]
    · rw [List.append_nil, slots]
      exact ⟨tally, filled, account.2⟩
  · rw [Worker.account_iff_of_hasRecorded before] at account
    exact quietly slots silent ((Worker.account_iff_of_hasRecorded behind).mpr account)

end State.Manned

end LineTally.Scan
