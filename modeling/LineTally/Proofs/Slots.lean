import LineTally.Proofs.Tally

/-!
# Slots keep what they are given first

Tallies are recorded in any order, more than one for the same worker or for workers that have no
slot among them.  A slot keeps the first tally of its worker and is never touched again, so what all
slots come to can be told from the tallies alone: of each worker the first, or a lost one if there
is none.  Records of different workers do not get into each other's way.
-/

namespace LineTally.Slots

/-- The slots after some records, and what was written to the log. -/
def recordAll (slots : Slots) : List WorkerTally → Slots × List LogLine
  | [] => (slots, [])
  | tally :: later =>
    let (next, log) := slots.record tally
    let (last, more) := next.recordAll later
    (last, log ++ more)

/-- The first tally of a worker among some. -/
def first? (tallies : List WorkerTally) (index : Nat) : Option WorkerTally :=
  tallies.find? (·.index.toNat = index)

/-- The first tally of each worker among some, or a lost one. -/
def firsts (workers : Count) (tallies : List WorkerTally) : List WorkerTally :=
  List.ofFn fun place : Fin workers.toNat =>
    (first? tallies place).getD (.lost ⟨place, place.isLt.trans workers.toNat_lt⟩)

/-- There is no slot for a tally, or an earlier one of the same worker is in it. -/
def Ignores (workers : Count) (before : List WorkerTally) (tally : WorkerTally) : Prop :=
  workers.toNat ≤ tally.index.toNat ∨ ∃ earlier ∈ before, earlier.index = tally.index

/-! ## A record -/

section Record

variable (slots : Slots) (tally : WorkerTally)

/-- A record fills the slot of its worker if that is empty, and leaves all others alone. -/
theorem entries_record (index : Nat) :
    (slots.record tally).1.entries[index]? = slots.entries[index]?.map fun slot =>
      if tally.index.toNat = index then slot.or (some tally) else slot := by
  unfold record
  split
  next empty =>
    rw [List.getElem?_set]
    split
    next same =>
      subst same
      rw [empty]
      simp [(List.getElem?_eq_some_iff.mp empty).1]
    next => simp
  next kept filled =>
    split
    next same =>
      subst same
      simp [filled]
    next => simp
  next outside =>
    split
    next same =>
      subst same
      simp [outside]
    next => simp

@[simp] theorem size_record : (slots.record tally).1.size = slots.size := by
  unfold record size
  split <;> simp

variable {slots tally}

/-- What a record writes to the log is told by the slot of its worker and the number of slots. -/
theorem log_record_congr {other : Slots}
    (slot : other.entries[tally.index.toNat]? = slots.entries[tally.index.toNat]?)
    (size : other.size = slots.size) : (other.record tally).2 = (slots.record tally).2 := by
  unfold record
  rw [slot, size]
  split <;> rfl

theorem ext_entries {left right : Slots}
    (same : ∀ index : Nat, left.entries[index]? = right.entries[index]?) : left = right := by
  cases left
  cases right
  exact congrArg Slots.mk (List.ext_getElem? same)

/-- Records of two workers can be exchanged: the slots are the same, and each writes what it would
have written. -/
theorem record_comm {other : WorkerTally} (different : tally.index ≠ other.index) :
    ((slots.record tally).1.record other).1 = ((slots.record other).1.record tally).1 ∧
      ((slots.record tally).1.record other).2 = (slots.record other).2 := by
  have apart : tally.index.toNat ≠ other.index.toNat := fun same => different (Count.ext same)
  constructor
  · apply ext_entries
    intro index
    simp only [entries_record, Option.map_map]
    congr 1
    funext slot
    by_cases own : tally.index.toNat = index
    · simp [own, own ▸ apart.symm]
    · simp [own]
  · apply log_record_congr
    · rw [entries_record]
      simp [apart]
    · exact size_record slots tally

end Record

/-! ## Records one after another -/

section Records

variable (slots : Slots)

@[simp] theorem size_recordAll (tallies : List WorkerTally) :
    (slots.recordAll tallies).1.size = slots.size := by
  induction tallies generalizing slots with
  | nil => rfl
  | cons tally later ih => exact (ih (slots.record tally).1).trans (size_record slots tally)

/-- A slot that was empty holds the first tally of its worker. -/
theorem entries_recordAll (tallies : List WorkerTally) (index : Nat) :
    (slots.recordAll tallies).1.entries[index]? =
      slots.entries[index]?.map (·.or (first? tallies index)) := by
  induction tallies generalizing slots with
  | nil => simp [recordAll, first?]
  | cons tally later ih =>
      have step := ih (slots.record tally).1
      rw [entries_record, Option.map_map] at step
      refine step.trans (congrArg (slots.entries[index]?.map ·) ?_)
      funext slot
      by_cases own : tally.index.toNat = index
      · simp [first?, own]
      · simp [first?, own]

theorem recordAll_append (before after : List WorkerTally) :
    slots.recordAll (before ++ after) =
      (((slots.recordAll before).1.recordAll after).1,
        (slots.recordAll before).2 ++ ((slots.recordAll before).1.recordAll after).2) := by
  induction before generalizing slots with
  | nil => rfl
  | cons tally later ih => simp [recordAll, ih]

/-- Records of different workers can be put in any order. -/
theorem recordAll_perm {tallies other : List WorkerTally} (perm : tallies.Perm other)
    (different : tallies.Pairwise (·.index ≠ ·.index)) :
    (slots.recordAll tallies).1 = (slots.recordAll other).1 ∧
      (slots.recordAll tallies).2.Perm (slots.recordAll other).2 := by
  induction perm generalizing slots with
  | nil => exact ⟨rfl, .nil⟩
  | cons tally _ ih =>
      rcases ih (slots.record tally).1 (List.pairwise_cons.mp different).2 with ⟨same, log⟩
      exact ⟨same, log.append_left _⟩
  | swap tally other later =>
      have apart : other.index ≠ tally.index :=
        (List.pairwise_cons.mp different).1 tally List.mem_cons_self
      have exchanged : ((slots.record other).1.record tally).1 =
          ((slots.record tally).1.record other).1 ∧
          ((slots.record other).1.record tally).2 = (slots.record tally).2 := record_comm apart
      have log' : ((slots.record tally).1.record other).2 = (slots.record other).2 :=
        (record_comm apart.symm).2
      rcases exchanged with ⟨same, log⟩
      simp only [recordAll, same, log, log']
      refine ⟨trivial, ?_⟩
      rw [← List.append_assoc, ← List.append_assoc]
      exact List.perm_append_comm.append_right _
  | trans first _ ih ih' =>
      rcases ih slots different with ⟨same, log⟩
      have distinct := first.pairwise different fun apart => apart.symm
      rcases ih' slots distinct with ⟨same', log'⟩
      exact ⟨same.trans same', log.trans log'⟩

end Records

/-! ## What all slots come to -/

/-- The slots from some place on come to a tally each. -/
theorem talliesFrom_eq_ok (entries : List (Option WorkerTally)) (start : Nat)
    (fits : start + entries.length ≤ Count.limit) :
    ∃ tallies, talliesFrom start entries = .ok tallies ∧ tallies.length = entries.length ∧
      ∀ place slot, entries[place]? = some slot → ∃ index : Count, index.toNat = start + place ∧
        tallies[place]? = some (slot.getD (.lost index)) := by
  induction entries generalizing start with
  | nil => exact ⟨[], rfl, rfl, nofun⟩
  | cons first rest ih =>
      rw [List.length_cons] at fits
      rcases ih (start + 1) (by omega) with ⟨tallies, made, length, each⟩
      have here : start < Count.limit := by omega
      refine ⟨first.getD (.lost ⟨start, here⟩) :: tallies, ?_, by simp [length], ?_⟩
      · cases first <;>
          simp [talliesFrom, made, Count.checked_of_lt here, Bind.bind, Except.bind, pure,
            Except.pure, Functor.map, Except.map]
      · intro place slot there
        cases place with
        | zero =>
            cases there
            exact ⟨⟨start, here⟩, rfl, rfl⟩
        | succ place =>
            rcases each place slot there with ⟨index, same, found⟩
            exact ⟨index, by omega, found⟩

theorem length_firsts (workers : Count) (tallies : List WorkerTally) :
    (firsts workers tallies).length = workers.toNat := by
  simp [firsts]

theorem firsts_getElem? (workers : Count) (tallies : List WorkerTally) (index : Count)
    (inside : index.toNat < workers.toNat) :
    (firsts workers tallies)[index.toNat]? =
      some ((first? tallies index.toNat).getD (.lost index)) := by
  rw [firsts, List.getElem?_ofFn, dif_pos inside]

theorem index_of_first? {tallies : List WorkerTally} {index : Nat} {tally : WorkerTally}
    (found : first? tallies index = some tally) : tally.index.toNat = index := by
  rw [first?, List.find?_eq_some_iff_append] at found
  exact of_decide_eq_true found.1

/-- Each worker's entry bears its number. -/
theorem index_of_firsts {workers : Count} {tallies : List WorkerTally} {index : Nat}
    {entry : WorkerTally} (there : (firsts workers tallies)[index]? = some entry) :
    entry.index.toNat = index := by
  have inside : index < workers.toNat := by
    have bound := (List.getElem?_eq_some_iff.mp there).1
    rwa [length_firsts] at bound
  let number : Count := ⟨index, inside.trans workers.toNat_lt⟩
  have same := firsts_getElem? workers tallies number inside
  cases Option.some.inj (there.symm.trans same)
  cases found : first? tallies number.toNat with
  | none => rfl
  | some tally => exact index_of_first? found

/-- The slots after some records come to the first tallies. -/
theorem aggregate_recordAll (workers : Count) (tallies : List WorkerTally) :
    ((empty workers.toNat).recordAll tallies).1.aggregate =
      Tally.ofWorkers (firsts workers tallies) := by
  let slots := ((empty workers.toNat).recordAll tallies).1
  have size : slots.entries.length = workers.toNat := by
    exact (size_recordAll (empty workers.toNat) tallies).trans List.length_replicate
  have below := workers.toNat_lt
  rcases talliesFrom_eq_ok slots.entries 0 (by omega) with ⟨made, listed, length, each⟩
  have same : made = firsts workers tallies := by
    apply List.ext_getElem?
    intro place
    by_cases inside : place < workers.toNat
    · have slot : slots.entries[place]? = some (first? tallies place) := by
        rw [entries_recordAll]
        simp [empty, inside]
      rcases each place _ slot with ⟨index, there, found⟩
      rw [Nat.zero_add] at there
      subst there
      rw [found, firsts_getElem? workers tallies index inside]
    · rw [List.getElem?_eq_none (by omega), List.getElem?_eq_none]
      rw [length_firsts]
      omega
  change talliesFrom 0 slots.entries >>= Tally.ofWorkers = _
  rw [listed, same]
  rfl

/-- The total is the exact sum of the matches, if that fits a count; otherwise there is none. -/
theorem ofWorkers_cases (entries : List WorkerTally) :
    let sum := (entries.map (·.matched.toNat)).sum
    (∃ total, Tally.ofWorkers entries = .ok ⟨total, entries⟩ ∧ total.toNat = sum ∧
        sum < Count.limit) ∨
      Tally.ofWorkers entries = .error .overflow ∧ Count.limit ≤ sum := by
  intro sum
  have same : ((entries.map (·.matched)).map Count.toNat).sum = sum := by
    rw [List.map_map]
    rfl
  rw [Tally.ofWorkers]
  rcases lt_or_ge sum Count.limit with fits | above
  · rcases Count.sum_eq_ok (entries.map (·.matched)) (same.trans_lt fits) with
      ⟨total, added, amount⟩
    rw [added]
    exact Or.inl ⟨total, rfl, amount.trans same, fits⟩
  · rw [Count.sum_eq_overflow (entries.map (·.matched)) (above.trans_eq same.symm)]
    exact Or.inr ⟨rfl, above⟩

/-- The sum of some entries, if there is one, is exact. -/
theorem ofWorkers_eq_ok_iff {entries : List WorkerTally} {tally : Tally} :
    Tally.ofWorkers entries = .ok tally ↔
      tally.workers = entries ∧ tally.total.toNat = (entries.map (·.matched.toNat)).sum := by
  rcases ofWorkers_cases entries with ⟨total, made, amount, -⟩ | ⟨failed, above⟩
  · rw [made, amount.symm]
    constructor
    · rintro ⟨⟩
      exact ⟨rfl, rfl⟩
    · rcases tally with ⟨told, workers⟩
      rintro ⟨rfl, same⟩
      have equal : told = total := Count.ext same
      rw [equal]
  · rw [failed]
    refine ⟨nofun, fun ⟨_, amount⟩ => ?_⟩
    have fits := tally.total.toNat_lt
    exact absurd (amount ▸ fits) (not_lt_of_ge above)

/-- There is no sum of some entries exactly if their matches do not fit a count together. -/
theorem ofWorkers_eq_overflow_iff {entries : List WorkerTally} :
    Tally.ofWorkers entries = .error .overflow ↔
      Count.limit ≤ (entries.map (·.matched.toNat)).sum := by
  rcases ofWorkers_cases entries with ⟨total, made, -, fits⟩ | ⟨failed, above⟩
  · rw [made]
    exact ⟨nofun, fun above => absurd fits (not_lt_of_ge above)⟩
  · exact ⟨fun _ => above, fun _ => failed⟩

/-! ## Slots that were empty at first -/

section Kept

variable (workers : Count) (tallies : List WorkerTally)

theorem eq_empty_of_create {workers : Nat} {made : Slots} (created : create workers = .ok made) :
    made = empty workers := by
  rw [create] at created
  cases room : allocate s!"result slots for {workers} workers" workers slotSize with
  | error failure =>
      rw [room] at created
      cases created
  | ok _ =>
      rw [room] at created
      cases created
      rfl

theorem entries_recorded (index : Nat) :
    ((empty workers.toNat).recordAll tallies).1.entries[index]? =
      if index < workers.toNat then some (first? tallies index) else none := by
  rw [entries_recordAll]
  by_cases inside : index < workers.toNat <;> simp [empty, inside]

theorem get?_recorded (index : Nat) :
    ((empty workers.toNat).recordAll tallies).1.get? index =
      if index < workers.toNat then first? tallies index else none := by
  rw [get?, entries_recorded]
  split <;> rfl

variable {workers tallies}

theorem first?_eq_none_iff {index : Count} :
    first? tallies index.toNat = none ↔ ∀ earlier ∈ tallies, earlier.index ≠ index := by
  simp [first?, Count.ext_iff]

/-- A record that is ignored changes nothing and writes one line to the log, an error. -/
theorem record_of_ignores {tally : WorkerTally} (ignored : Ignores workers tallies tally) :
    let slots := ((empty workers.toNat).recordAll tallies).1
    ∃ message, slots.record tally = (slots, [⟨.error, message⟩]) := by
  intro slots
  have slot := entries_recorded workers tallies tally.index.toNat
  rw [record]
  by_cases inside : tally.index.toNat < workers.toNat
  · rcases ignored with outside | ⟨earlier, among, same⟩
    · exact absurd inside (not_lt_of_ge outside)
    · cases found : first? tallies tally.index.toNat with
      | none => exact absurd same (first?_eq_none_iff.mp found earlier among)
      | some kept =>
          rw [if_pos inside, found] at slot
          rw [slot]
          exact ⟨_, rfl⟩
  · rw [if_neg inside] at slot
    rw [slot]
    exact ⟨_, rfl⟩

/-- Any number of them change nothing and write as many lines. -/
theorem recordAll_of_ignored {later : List WorkerTally}
    (ignored : ∀ tally ∈ later, Ignores workers tallies tally) :
    let slots := ((empty workers.toNat).recordAll tallies).1
    (slots.recordAll later).1 = slots ∧
      (slots.recordAll later).2.map (·.level) = later.map fun _ => .error := by
  intro slots
  induction later with
  | nil => exact ⟨rfl, rfl⟩
  | cons tally later ih =>
      rw [List.forall_mem_cons] at ignored
      rcases record_of_ignores ignored.1 with ⟨message, done⟩
      rcases ih ignored.2 with ⟨same, log⟩
      rw [recordAll, done]
      exact ⟨same, congrArg (Level.error :: ·) log⟩

/-- A record that is not ignored writes nothing. -/
theorem record_of_not_ignores {tally : WorkerTally} (heeded : ¬ Ignores workers tallies tally) :
    (((empty workers.toNat).recordAll tallies).1.record tally).2 = [] := by
  rw [Ignores, not_or, not_le, not_exists] at heeded
  have slot := entries_recorded workers tallies tally.index.toNat
  have fresh : first? tallies tally.index.toNat = none :=
    first?_eq_none_iff.mpr fun earlier among same => heeded.2 earlier ⟨among, same⟩
  rw [if_pos heeded.1, fresh] at slot
  rw [record, slot]

end Kept

/-- Whatever tallies are recorded in slots that were empty at first, each slot holds the first tally
of its worker, if there is one.  The sum of all slots has an entry for each worker, in order: what
the slot holds, or a lost tally.  Its total is the exact sum of the matches in these entries; there
is no sum exactly if that does not fit a count.  Records of tallies for which there is no slot, or
whose slot is taken, change nothing, and each of them writes one error to the log; no other record
writes anything.  Tallies of different workers that are recorded one after another might as well be
recorded in any other order. -/
theorem slots_keep_first_tallies (workers : Count) (tallies : List WorkerTally) :
    let slots := ((empty workers.toNat).recordAll tallies).1
    let entries := firsts workers tallies
    let sum := (entries.map (·.matched.toNat)).sum
    (∀ made, create workers.toNat = .ok made → made = empty workers.toNat) ∧
    slots.size = workers.toNat ∧ (slots.isEmpty = true ↔ workers.toNat = 0) ∧
    (∀ index, slots.get? index =
      if index < workers.toNat then tallies.find? (·.index.toNat = index) else none) ∧
    entries.length = workers.toNat ∧
    (∀ index entry, entries[index]? = some entry →
      entry.index.toNat = index ∧ entry = (slots.get? index).getD (.lost entry.index)) ∧
    (∀ tally, slots.aggregate = .ok tally ↔
      tally.workers = entries ∧ tally.total.toNat = sum) ∧
    (slots.aggregate = .error .overflow ↔ Count.limit ≤ sum) ∧
    (∀ later, (∀ tally ∈ later, Ignores workers tallies tally) →
      (slots.recordAll later).1 = slots ∧
        (slots.recordAll later).2.map (·.level) = later.map fun _ => .error) ∧
    (∀ tally, ¬ Ignores workers tallies tally → (slots.record tally).2 = []) ∧
    ∀ block other behind, block.Perm other → block.Pairwise (·.index ≠ ·.index) →
      ((empty workers.toNat).recordAll (tallies ++ block ++ behind)).1 =
        ((empty workers.toNat).recordAll (tallies ++ other ++ behind)).1 := by
  intro slots entries sum
  have size : slots.size = workers.toNat :=
    (size_recordAll (empty workers.toNat) tallies).trans List.length_replicate
  have summed : slots.aggregate = Tally.ofWorkers entries := aggregate_recordAll workers tallies
  refine ⟨?_, size, ?_, get?_recorded workers tallies, length_firsts workers tallies, ?_, ?_, ?_,
    fun _ => recordAll_of_ignored, fun _ => record_of_not_ignores, ?_⟩
  case refine_1 => exact fun made created => eq_empty_of_create created
  case refine_2 => rw [← size, isEmpty, Slots.size, List.isEmpty_iff_length_eq_zero]
  case refine_3 =>
    intro index entry there
    have same := index_of_firsts there
    subst same
    have inside : entry.index.toNat < workers.toNat := by
      have bound := (List.getElem?_eq_some_iff.mp there).1
      rwa [length_firsts] at bound
    rw [get?_recorded, if_pos inside]
    exact ⟨rfl, Option.some.inj (there.symm.trans (firsts_getElem? _ _ _ inside))⟩
  case refine_4 =>
    intro tally
    rw [summed, ofWorkers_eq_ok_iff]
  case refine_5 => rw [summed, ofWorkers_eq_overflow_iff]
  case refine_6 =>
    intro block other behind perm different
    simp only [recordAll_append]
    rw [(recordAll_perm _ perm different).1]

/-- Of three records the first has no slot and the third comes too late, so two workers are lost.
Their tallies can still be recorded, in either order; then the sum does not fit a count. -/
theorem slots_keep_first_tallies_of_late :
    let tallies : List WorkerTally := [
      ⟨⟨5, by decide⟩, ⟨4, by decide⟩, ⟨4, by decide⟩, false⟩,
      ⟨1, ⟨3, by decide⟩, ⟨4, by decide⟩, false⟩,
      ⟨1, ⟨9, by decide⟩, ⟨9, by decide⟩, false⟩]
    let largest : WorkerTally :=
      ⟨0, ⟨Count.limit - 1, by decide⟩, ⟨Count.limit - 1, by decide⟩, false⟩
    let last : WorkerTally := ⟨⟨2, by decide⟩, 1, 1, true⟩
    let slots := ((empty 3).recordAll tallies).1
    slots.aggregate = .ok ⟨⟨3, by decide⟩, [
      .lost 0, ⟨1, ⟨3, by decide⟩, ⟨4, by decide⟩, false⟩, .lost ⟨2, by decide⟩]⟩ ∧
    (slots.recordAll tallies).1 = slots ∧
    ((empty 3).recordAll (tallies ++ [largest, last])).1 =
      ((empty 3).recordAll (tallies ++ [last, largest])).1 ∧
    ((empty 3).recordAll (tallies ++ [largest, last])).1.aggregate = .error .overflow := by
  intro tallies largest last slots
  rcases slots_keep_first_tallies ⟨3, by decide⟩ tallies with
    ⟨-, -, -, -, -, -, sum, -, ignored, -, order⟩
  rcases slots_keep_first_tallies ⟨3, by decide⟩ (tallies ++ [largest, last]) with
    ⟨-, -, -, -, -, -, -, overflow, -⟩
  refine ⟨(sum _).mpr (by decide +kernel), (ignored tallies ?_).1, ?_, ?_⟩
  · simp only [tallies, List.forall_mem_cons]
    refine ⟨Or.inl (by decide), Or.inr ?_, Or.inr ?_, List.forall_mem_nil _⟩
    · exact ⟨_, List.mem_cons_of_mem _ List.mem_cons_self, rfl⟩
    · exact ⟨_, List.mem_cons_of_mem _ List.mem_cons_self, rfl⟩
  · have swapped := order [largest, last] [last, largest] [] (.swap ..) (by decide)
    simpa using swapped
  · exact overflow.mpr (by decide +kernel)

end LineTally.Slots
