import LineTally.Proofs.Consumer
import LineTally.Proofs.Threads
import LineTally.Slots
import Mathlib.Algebra.BigOperators.Fin
import Mathlib.Algebra.Order.BigOperators.Group.Finset

/-!
# What the tallies of all workers add up to

Each worker knows only the lines that it took itself.  When these are, worker by worker, all lines
that were taken, then the tallies add up to what there is to count among all of them, and they do so
without a fault if all the lines taken can be counted.
-/

namespace LineTally

/-- All lines that are taken are taken by one of the threads each. -/
theorem sum_countP_ofThread {number : Nat} {done : List (Nat × String)} (counts : String → Bool)
    (inside : ∀ entry ∈ done, entry.1 < number) :
    ∑ thread ∈ Finset.range number, (ofThread thread done).countP counts =
      (done.map Prod.snd).countP counts := by
  induction done with
  | nil => simp [ofThread]
  | cons entry rest ih =>
      rcases entry with ⟨owner, line⟩
      have split (thread : Nat) : (ofThread thread ((owner, line) :: rest)).countP counts =
          (if thread = owner then [line].countP counts else 0) +
            (ofThread thread rest).countP counts := by
        by_cases own : owner = thread
        · simp [ofThread, own, List.countP_cons, Nat.add_comm]
        · simp [ofThread, own, Ne.symm own]
      have member : owner ∈ Finset.range number := by
        simpa using inside (owner, line) (by simp)
      rw [Finset.sum_congr rfl fun thread _ => split thread, Finset.sum_add_distrib,
        Finset.sum_ite_eq' _ owner, if_pos member, ih fun entry member =>
          inside entry (List.mem_cons_of_mem _ member)]
      simp [List.countP_cons, Nat.add_comm]

/-- These are the tallies of workers that took these lines. -/
structure Tallied (predicate : Predicate) (done : List (Nat × String))
    (tallies : List WorkerTally) : Prop where
  inside : ∀ entry ∈ done, entry.1 < tallies.length
  each : ∀ (index : Nat) (tally : WorkerTally), tallies[index]? = some tally →
    ∃ number : Count, number.toNat = index ∧ tally.Of predicate number (ofThread index done)

/-- What a sum of all slots is worth. -/
structure Tally.Sums (predicate : Predicate) (done : List (Nat × String)) (workers : Nat)
    (tally : Tally) : Prop where
  tallied : Tallied predicate done tally.workers
  length : tally.workers.length = workers
  total : tally.total.toNat = (tally.workers.map (·.matched.toNat)).sum

theorem Tally.Sums.failedWorkers_eq_iff {predicate : Predicate} {done : List (Nat × String)}
    {workers : Nat} {tally : Tally} (sums : tally.Sums predicate done workers) :
    tally.failedWorkers = workers ↔ ∀ entry ∈ tally.workers, entry.failed = true := by
  rw [← sums.length]
  exact List.countP_eq_length

namespace WorkerTally

variable {predicate : Predicate} {index : Count} {lines : List String} {tally : WorkerTally}

theorem Of.index_eq (of : tally.Of predicate index lines) : tally.index = index := by
  cases of <;> rfl

/-- A tally does not claim more than there was. -/
theorem Of.le (of : tally.Of predicate index lines) :
    tally.matched.toNat ≤ lines.countP predicate.accepts ∧
      tally.consumed.toNat ≤ lines.length := by
  cases of with
  | counted of => exact ⟨of.matched.le, of.consumed.le⟩
  | gaveUp => exact ⟨Nat.zero_le _, Nat.zero_le _⟩

/-- A tally has no more matches than lines. -/
theorem Of.matched_le_consumed (of : tally.Of predicate index lines) :
    tally.matched.toNat ≤ tally.consumed.toNat := by
  cases of with
  | counted of =>
      rw [of.matched, of.consumed]
      exact List.countP_le_length
  | gaveUp => exact Nat.zero_le _

/-- A worker that failed took one line on which the predicate gives up, and no other worker did. -/
theorem Of.failed_eq (of : tally.Of predicate index lines) :
    tally.failed.toNat = lines.countP predicate.givesUp := by
  have fine {lines : List String} (answers : ∀ line ∈ lines, predicate.Answers line) :
      lines.countP predicate.givesUp = 0 := by
    apply List.countP_eq_zero.mpr
    intro line member
    simp [(answers line member).givesUp_eq_false]
  cases of with
  | counted of => exact (fine of.answers).symm
  | gaveUp answers failed =>
      rw [List.countP_append, fine answers]
      simp [WorkerTally.lost, Predicate.givesUp, failed]

/-- A worker that failed has no counts, and every other has counted all its matches. -/
theorem Of.matched_eq (of : tally.Of predicate index lines) :
    tally.matched.toNat = if tally.failed then 0 else lines.countP predicate.accepts := by
  cases of with
  | counted of => exact of.matched
  | gaveUp => rfl

theorem Of.eq_lost (of : tally.Of predicate index lines) (failed : tally.failed = true) :
    tally = .lost index := by
  cases of with
  | counted => cases failed
  | gaveUp => rfl

/-- A predicate that always answers fails no worker. -/
theorem Of.exact (of : tally.Of predicate index lines)
    (answers : ∀ line, predicate.Answers line) :
    tally.matched.toNat = lines.countP predicate.accepts ∧
      tally.consumed.toNat = lines.length ∧ tally.failed = false := by
  cases of with
  | counted of => exact ⟨of.matched, of.consumed, rfl⟩
  | @gaveUp lines line message _ failed =>
      rcases answers line with ⟨matches?, answer⟩
      rw [failed] at answer
      cases answer

end WorkerTally

namespace Tallied

variable {predicate : Predicate} {done : List (Nat × String)} {tallies : List WorkerTally}

theorem of_mem (tallied : Tallied predicate done tallies) {tally : WorkerTally}
    (member : tally ∈ tallies) :
    ∃ (number : Count) (lines : List String), tally.Of predicate number lines := by
  rcases List.getElem?_of_mem member with ⟨index, there⟩
  rcases tallied.each index tally there with ⟨number, -, of⟩
  exact ⟨number, _, of⟩

theorem sum_le (tallied : Tallied predicate done tallies) (part : WorkerTally → Nat)
    (counts : String → Bool)
    (each : ∀ index lines tally, tally.Of predicate index lines →
      part tally ≤ lines.countP counts) :
    (tallies.map part).sum ≤ (done.map Prod.snd).countP counts := by
  rw [← sum_countP_ofThread counts tallied.inside, Finset.sum_range, ← Fin.sum_univ_fun_getElem]
  apply Finset.sum_le_sum
  intro place _
  rcases tallied.each place _ (List.getElem?_eq_getElem place.isLt) with ⟨number, -, of⟩
  exact each number _ _ of

theorem sum_eq (tallied : Tallied predicate done tallies) (part : WorkerTally → Nat)
    (counts : String → Bool)
    (each : ∀ index lines tally, tally.Of predicate index lines →
      part tally = lines.countP counts) :
    (tallies.map part).sum = (done.map Prod.snd).countP counts := by
  rw [← sum_countP_ofThread counts tallied.inside, Finset.sum_range, ← Fin.sum_univ_fun_getElem]
  apply Finset.sum_congr rfl
  intro place _
  rcases tallied.each place _ (List.getElem?_eq_getElem place.isLt) with ⟨number, -, of⟩
  exact each number _ _ of

/-- As many workers failed as lines were taken on which the predicate gives up. -/
theorem countP_failed (tallied : Tallied predicate done tallies) :
    tallies.countP (·.failed) = (done.map Prod.snd).countP predicate.givesUp := by
  have counted : (tallies.map (·.failed.toNat)).sum = tallies.countP (·.failed) := by
    clear tallied
    induction tallies with
    | nil => rfl
    | cons tally rest ih =>
        rw [List.map_cons, List.sum_cons, ih, List.countP_cons, Nat.add_comm]
        cases tally.failed <;> rfl
  rw [← counted]
  exact tallied.sum_eq (·.failed.toNat) _ fun _ _ _ of => of.failed_eq

/-- The tallies hold the matches among the lines that workers took that did not fail. -/
theorem sum_matched (tallied : Tallied predicate done tallies) :
    (tallies.map (·.matched.toNat)).sum =
      ((done.filter fun entry => !tallies[entry.1]?.any (·.failed)).map Prod.snd).countP
        predicate.accepts := by
  have inside : ∀ entry ∈ done.filter fun entry => !tallies[entry.1]?.any (·.failed),
      entry.1 < tallies.length :=
    fun entry member => tallied.inside entry (List.mem_of_mem_filter member)
  rw [← sum_countP_ofThread predicate.accepts inside, Finset.sum_range,
    ← Fin.sum_univ_fun_getElem]
  apply Finset.sum_congr rfl
  intro place _
  have there := List.getElem?_eq_getElem place.isLt
  rcases tallied.each place _ there with ⟨number, -, of⟩
  rw [of.matched_eq, ofThread_filter place fun thread => !tallies[thread]?.any (·.failed), there,
    Option.any_some]
  cases tallies[place].failed <;> rfl

/-- The matches are added up without a fault. -/
theorem ofWorkers_eq_ok (tallied : Tallied predicate done tallies)
    (fits : done.length < Count.limit) :
    ∃ tally, Tally.ofWorkers tallies = .ok tally ∧ tally.workers = tallies ∧
      tally.total.toNat = (tallies.map (·.matched.toNat)).sum := by
  have fewer := tallied.sum_le (·.matched.toNat) predicate.accepts fun _ _ _ of => of.le.1
  have shorter := (done.map Prod.snd).countP_le_length (p := predicate.accepts)
  rw [List.length_map] at shorter
  have sum_eq : ((tallies.map (·.matched)).map Count.toNat).sum =
      (tallies.map (·.matched.toNat)).sum := by
    rw [List.map_map]
    rfl
  rcases Count.sum_eq_ok (tallies.map (·.matched)) (by omega) with
    ⟨total, added, amount⟩
  refine ⟨⟨total, tallies⟩, ?_, rfl, amount.trans sum_eq⟩
  simp [Tally.ofWorkers, added, Bind.bind, Except.bind, pure, Except.pure]

/-- The lines that the tallies count are added up without a fault. -/
theorem consumed_eq_sum {tally : Tally} (tallied : Tallied predicate done tally.workers)
    (fits : done.length < Count.limit) :
    ∃ consumed, tally.consumed = .ok consumed ∧
      consumed.toNat = (tally.workers.map (·.consumed.toNat)).sum ∧
      consumed.toNat ≤ done.length := by
  have fewer := tallied.sum_le (·.consumed.toNat) (fun _ => true) fun _ lines _ of => by
    rw [List.countP_true]
    exact of.le.2
  rw [List.countP_true, List.length_map] at fewer
  have sum_eq : ((tally.workers.map (·.consumed)).map Count.toNat).sum =
      (tally.workers.map (·.consumed.toNat)).sum := by
    rw [List.map_map]
    rfl
  rcases Count.sum_eq_ok (tally.workers.map (·.consumed))
    (sum_eq ▸ lt_of_le_of_lt fewer fits) with ⟨consumed, added, amount⟩
  have same := amount.trans sum_eq
  exact ⟨consumed, added, same, same ▸ fewer⟩

/-- What the workers took is all counted if the predicate always answers. -/
theorem consumed_eq_ok {tally : Tally} (tallied : Tallied predicate done tally.workers)
    (fits : done.length < Count.limit) (answers : ∀ line, predicate.Answers line) :
    ∃ consumed, tally.consumed = .ok consumed ∧ consumed.toNat = done.length := by
  rcases tallied.consumed_eq_sum fits with ⟨consumed, added, amount, -⟩
  have all := tallied.sum_eq (·.consumed.toNat) (fun _ => true) fun _ lines _ of => by
    rw [(of.exact answers).2.1, List.countP_true]
  rw [List.countP_true, List.length_map] at all
  exact ⟨consumed, added, amount.trans all⟩

/-- There are no more matches than lines in the tallies together. -/
theorem total_le_consumed {tally : Tally} (tallied : Tallied predicate done tally.workers) :
    (tally.workers.map (·.matched.toNat)).sum ≤
      (tally.workers.map (·.consumed.toNat)).sum := by
  apply List.sum_le_sum
  intro entry member
  rcases tallied.of_mem member with ⟨number, lines, of⟩
  exact of.matched_le_consumed

end Tallied

namespace Slots

theorem entries_getElem? {slots : Slots} {index : Nat} (inside : index < slots.entries.length) :
    slots.entries[index]? = some (slots.get? index) := by
  rw [List.getElem?_eq_getElem inside, get?, List.getElem?_eq_getElem inside]
  rfl

/-- An empty slot takes the tally of its worker, and no other slot is touched. -/
theorem record_of_empty {slots : Slots} {tally : WorkerTally}
    (inside : tally.index.toNat < slots.entries.length)
    (empty : slots.get? tally.index.toNat = none) :
    (slots.record tally).2 = [] ∧
      (slots.record tally).1.entries.length = slots.entries.length ∧
      (slots.record tally).1.get? tally.index.toNat = some tally ∧
      ∀ index, index ≠ tally.index.toNat →
        (slots.record tally).1.get? index = slots.get? index := by
  have slot := entries_getElem? inside
  rw [empty] at slot
  simp only [record, slot]
  refine ⟨trivial, List.length_set, ?_, ?_⟩
  · simp [get?, inside]
  · intro index different
    simp [get?, List.getElem?_set_ne (Ne.symm different)]

/-- When every slot has been filled, the sum is that of the tallies in the slots. -/
theorem aggregate_of_filled {slots : Slots} {tallies : List WorkerTally}
    (filled : slots.entries = tallies.map some) : slots.aggregate = Tally.ofWorkers tallies := by
  have talliesFrom_eq (index : Nat) : talliesFrom index (tallies.map some) = .ok tallies := by
    clear filled
    induction tallies generalizing index with
    | nil => rfl
    | cons tally rest ih =>
        simp [talliesFrom, ih, Bind.bind, Except.bind, pure, Except.pure]
  rw [aggregate, filled, talliesFrom_eq]
  rfl

end Slots

end LineTally
