import LineTally.Count
import Mathlib.Algebra.Ring.Nat

/-!
# Counts that fit

Adding to a count faults exactly when the sum is not below the limit.
-/

namespace LineTally.Count

/-- A number within the limit is kept as it is. -/
theorem fitting_of_lt {number : Nat} (fits : number < limit) : fitting number = .ok number := by
  simp [fitting, fits]

theorem checked_of_lt {number : Nat} (fits : number < limit) :
    checked number = .ok ⟨number, fits⟩ := by
  simp [checked, fits]

theorem succ_eq_ok {count : Count} (fits : count.toNat + 1 < limit) :
    ∃ next, count.succ = .ok next ∧ next.toNat = count.toNat + 1 :=
  ⟨_, checked_of_lt fits, rfl⟩

/-- Only the largest count has no successor. -/
theorem succ_cases (count : Count) :
    (∃ next, count.succ = .ok next ∧ next.toNat = count.toNat + 1) ∨
      count.succ = .error .overflow ∧ count.toNat + 1 = limit := by
  by_cases fits : count.toNat + 1 < limit
  · exact Or.inl (succ_eq_ok fits)
  · have below := count.toNat_lt
    exact Or.inr ⟨by simp [succ, checked, fits], by omega⟩

/-- A count has no successor only because there is no larger one. -/
theorem eq_overflow_of_succ {count : Count} {fault : Fault} (failed : count.succ = .error fault) :
    fault = .overflow := by
  rcases succ_cases count with ⟨next, more, -⟩ | ⟨full, -⟩
  · rw [more] at failed
    cases failed
  · rw [full] at failed
    cases failed
    rfl

/-- Counts whose sum is below the limit are added up without a fault. -/
theorem sum_eq_ok (counts : List Count) (fits : (counts.map toNat).sum < limit) :
    ∃ total, sum counts = .ok total ∧ total.toNat = (counts.map toNat).sum := by
  suffices general : ∀ (counts : List Count) (start : Count),
      start.toNat + (counts.map toNat).sum < limit →
      ∃ total, counts.foldlM add start = .ok total ∧
        total.toNat = start.toNat + (counts.map toNat).sum by
    simpa [sum] using general counts 0 (by simpa using fits)
  intro counts
  induction counts with
  | nil => exact fun start _ => ⟨start, rfl, rfl⟩
  | cons count rest ih =>
      intro start fits
      rw [List.map_cons, List.sum_cons, ← Nat.add_assoc] at fits ⊢
      have first : start.toNat + count.toNat < limit := by omega
      rcases ih ⟨_, first⟩ fits with ⟨total, added, amount⟩
      refine ⟨total, ?_, amount⟩
      rw [List.foldlM_cons, add, checked_of_lt first]
      exact added

/-- Counts whose sum is not below the limit are not added up: some sum on the way does not fit. -/
theorem sum_eq_overflow (counts : List Count) (above : limit ≤ (counts.map toNat).sum) :
    sum counts = .error .overflow := by
  suffices general : ∀ (counts : List Count) (start : Count),
      limit ≤ start.toNat + (counts.map toNat).sum →
      counts.foldlM add start = .error .overflow by
    exact general counts 0 (by simpa using above)
  intro counts
  induction counts with
  | nil => exact fun start above => absurd start.toNat_lt (not_lt_of_ge above)
  | cons count rest ih =>
      intro start above
      rw [List.map_cons, List.sum_cons, ← Nat.add_assoc] at above
      rw [List.foldlM_cons, add]
      by_cases first : start.toNat + count.toNat < limit
      · rw [checked_of_lt first]
        exact ih ⟨_, first⟩ above
      · rw [checked, dif_neg first]
        rfl

end LineTally.Count
