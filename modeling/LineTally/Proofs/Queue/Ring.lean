import LineTally.Proofs.Count
import LineTally.Queue.Ring
import Mathlib.Data.Nat.ModEq

/-!
# The ring as a bounded list

A ring holds a list of items when its slots, read from the head onwards and around the end, are the
items of the list and then nothing.  Head, tail and count alone do not tell a full ring from an
empty one, so the relation speaks about every slot.  Putting appends to the list, taking removes its
first item, and neither can fault where the queue calls them.
-/

namespace LineTally

namespace Queue.Ring

variable {α : Type}

/-- The slots of a ring, from the head onwards, are these items and then empty. -/
structure Holds (ring : Ring α) (items : List α) : Prop where
  capacity_pos : 0 < ring.capacity
  capacity_lt : ring.capacity < Count.limit
  head_lt : ring.head < ring.capacity
  tail_eq : ring.tail = (ring.head + items.length) % ring.capacity
  count_eq : ring.count = items.length
  length_le : items.length ≤ ring.capacity
  slot_eq : ∀ offset < ring.capacity,
    ring.slots[(ring.head + offset) % ring.capacity]? = some items[offset]?

/-- A ring that holds the items it stands for. -/
def Valid (ring : Ring α) : Prop := ring.Holds ring.toList

theorem holds_empty {capacity : Nat} (positive : 0 < capacity)
    (fits : capacity < Count.limit) : (empty capacity : Ring α).Holds [] where
  capacity_pos := by simpa using positive
  capacity_lt := by simpa using fits
  head_lt := by simpa [empty, Ring.capacity] using positive
  tail_eq := by simp [empty]
  count_eq := rfl
  length_le := Nat.zero_le _
  slot_eq := by
    intro offset inside
    have bound : offset % capacity < capacity := Nat.mod_lt _ positive
    simp [empty, Ring.capacity, bound]

namespace Holds

variable {ring : Ring α} {items : List α}

/-- What a ring holds is what it stands for. -/
theorem toList_eq (holds : ring.Holds items) : ring.toList = items := by
  have used : ring.used = items.map some := by
    apply List.ext_getElem
    · simp [Ring.used, holds.count_eq]
    · intro offset inUsed inItems
      have inside : offset < items.length := by simpa using inItems
      have slot := holds.slot_eq offset (lt_of_lt_of_le inside holds.length_le)
      simp [Ring.used, slot, inside]
  simp [Ring.toList, used]

theorem valid (holds : ring.Holds items) : ring.Valid := by
  rw [Valid, holds.toList_eq]
  exact holds

theorem isFull_iff (holds : ring.Holds items) :
    ring.isFull = true ↔ items.length = ring.capacity := by
  simp [Ring.isFull, holds.count_eq]

/-- A ring is full if it holds no fewer items than it has slots. -/
theorem isFull_of_le (holds : ring.Holds items) (full : ring.capacity ≤ ring.count) :
    ring.isFull = true := by
  rw [holds.isFull_iff, ← holds.count_eq]
  exact le_antisymm (holds.count_eq ▸ holds.length_le) full

/-- The slots at two different offsets are different. -/
theorem slot_inj {left right : Nat} (leftIn : left < ring.capacity)
    (rightIn : right < ring.capacity)
    (same : (ring.head + left) % ring.capacity = (ring.head + right) % ring.capacity) :
    left = right := by
  have congruent : left ≡ right [MOD ring.capacity] := Nat.ModEq.add_left_cancel' ring.head same
  rwa [Nat.ModEq, Nat.mod_eq_of_lt leftIn, Nat.mod_eq_of_lt rightIn] at congruent

/-- A ring with room takes an item at the end. -/
theorem put (holds : ring.Holds items) (item : α) (room : items.length < ring.capacity) :
    ∃ next, ring.put item = .ok next ∧ next.Holds (items ++ [item]) ∧
      next.capacity = ring.capacity := by
  have tailIn : ring.tail < ring.slots.size := by
    rw [holds.tail_eq]
    exact Nat.mod_lt _ holds.capacity_pos
  have atTail : ring.slots[ring.tail]? = some none := by
    simpa [holds.tail_eq] using holds.slot_eq items.length room
  have tailFits : ring.tail + 1 < Count.limit :=
    lt_of_le_of_lt tailIn holds.capacity_lt
  have countFits : ring.count + 1 < Count.limit := by
    rw [holds.count_eq]
    exact lt_of_le_of_lt room holds.capacity_lt
  let next : Ring α := { ring with
    slots := ring.slots.setIfInBounds ring.tail (some item)
    tail := (ring.tail + 1) % ring.capacity
    count := ring.count + 1 }
  have same : next.capacity = ring.capacity := by simp [next, Ring.capacity]
  refine ⟨next, ?_, ?_, same⟩
  · simp only [Ring.put, atTail, Count.fitting_of_lt tailFits, Count.fitting_of_lt countFits]
    rfl
  · constructor
    case capacity_pos => exact same ▸ holds.capacity_pos
    case capacity_lt => exact same ▸ holds.capacity_lt
    case head_lt => exact same ▸ holds.head_lt
    case tail_eq =>
      rw [same, List.length_append, List.length_singleton, ← Nat.add_assoc, ← Nat.mod_add_mod,
        ← holds.tail_eq]
    case count_eq => simp [next, holds.count_eq]
    case length_le => simp only [same, List.length_append, List.length_singleton]; omega
    case slot_eq =>
      rw [same]
      intro offset inside
      change (ring.slots.setIfInBounds ring.tail (some item))[_]? = _
      rw [Array.getElem?_setIfInBounds]
      by_cases here : offset = items.length
      · subst here
        have there : ring.tail = (next.head + items.length) % ring.capacity := holds.tail_eq
        simp [← there, tailIn]
      · have elsewhere : ring.tail ≠ (next.head + offset) % ring.capacity := by
          intro met
          exact here (slot_inj room inside (holds.tail_eq.symm.trans met)).symm
        rw [if_neg elsewhere]
        refine (holds.slot_eq offset inside).trans ?_
        rw [List.getElem?_append]
        split
        · rfl
        · rw [List.getElem?_eq_none (by omega), List.getElem?_eq_none (by simp; omega)]

/-- A ring that is not empty gives its first item. -/
theorem take {item : α} (holds : ring.Holds (item :: items)) :
    ∃ next, ring.take = .ok (item, next) ∧ next.Holds items ∧
      next.capacity = ring.capacity := by
  have nonempty : 0 < ring.capacity := holds.capacity_pos
  have atHead : ring.slots[ring.head]? = some (some item) := by
    simpa [Nat.mod_eq_of_lt holds.head_lt] using holds.slot_eq 0 nonempty
  have headFits : ring.head + 1 < Count.limit :=
    lt_of_le_of_lt holds.head_lt holds.capacity_lt
  have counted : ring.count = items.length + 1 := holds.count_eq
  let next : Ring α := { ring with
    slots := ring.slots.setIfInBounds ring.head none
    head := (ring.head + 1) % ring.capacity
    count := ring.count - 1 }
  have same : next.capacity = ring.capacity := by simp [next, Ring.capacity]
  have shift (offset : Nat) :
      (next.head + offset) % ring.capacity = (ring.head + (offset + 1)) % ring.capacity := by
    simp only [next, Nat.mod_add_mod]
    congr 1
    omega
  have length_le : items.length + 1 ≤ ring.capacity := holds.length_le
  refine ⟨next, ?_, ?_, same⟩
  · have taken : ring.count ≠ 0 := by omega
    simp only [Ring.take, atHead, Count.fitting_of_lt headFits, if_neg taken]
    rfl
  · constructor
    case capacity_pos => exact same ▸ holds.capacity_pos
    case capacity_lt => exact same ▸ holds.capacity_lt
    case head_lt => exact same ▸ Nat.mod_lt _ nonempty
    case tail_eq => rw [same, shift]; exact holds.tail_eq
    case count_eq => simp [next, counted]
    case length_le => omega
    case slot_eq =>
      rw [same]
      intro offset inside
      rw [shift]
      change (ring.slots.setIfInBounds ring.head none)[_]? = _
      rw [Array.getElem?_setIfInBounds]
      by_cases last : offset + 1 = ring.capacity
      · have around : (ring.head + (offset + 1)) % ring.capacity = ring.head := by
          rw [last, Nat.add_mod_right, Nat.mod_eq_of_lt holds.head_lt]
        have headIn : ring.head < ring.slots.size := holds.head_lt
        rw [around, if_pos rfl, if_pos headIn, List.getElem?_eq_none (by omega)]
      · have inside : offset + 1 < ring.capacity := by omega
        have elsewhere : ring.head ≠ (ring.head + (offset + 1)) % ring.capacity := by
          intro met
          have met : (ring.head + 0) % ring.capacity =
              (ring.head + (offset + 1)) % ring.capacity := by
            rwa [Nat.add_zero, Nat.mod_eq_of_lt holds.head_lt]
          exact absurd (slot_inj nonempty inside met) (by omega)
        rw [if_neg elsewhere]
        exact holds.slot_eq (offset + 1) inside

end Holds

namespace Valid

variable {ring : Ring α}

theorem count_eq (valid : ring.Valid) : ring.count = ring.toList.length :=
  Holds.count_eq valid

theorem length_le (valid : ring.Valid) : ring.toList.length ≤ ring.capacity :=
  Holds.length_le valid

theorem isFull_iff (valid : ring.Valid) :
    ring.isFull = true ↔ ring.toList.length = ring.capacity :=
  Holds.isFull_iff valid

/-- Putting into a ring that is not full does not fault, and appends the item. -/
theorem put (valid : ring.Valid) (item : α) (room : ring.isFull = false) :
    ∃ next, ring.put item = .ok next ∧ next.Valid ∧ next.capacity = ring.capacity ∧
      next.toList = ring.toList ++ [item] := by
  have different : ring.toList.length ≠ ring.capacity := by
    intro full
    simp [valid.isFull_iff.mpr full] at room
  obtain ⟨next, placed, holds, capacity⟩ :=
    Holds.put valid item (lt_of_le_of_ne valid.length_le different)
  exact ⟨next, placed, holds.valid, capacity, holds.toList_eq⟩

/-- Taking from a ring that is not empty does not fault, and removes the first item. -/
theorem take (valid : ring.Valid) (filled : ring.count ≠ 0) :
    ∃ item next, ring.take = .ok (item, next) ∧ next.Valid ∧
      next.capacity = ring.capacity ∧ ring.toList = item :: next.toList := by
  have holds : ring.Holds ring.toList := valid
  cases items : ring.toList with
  | nil => exact absurd (by simpa [items] using valid.count_eq) filled
  | cons item rest =>
      rw [items] at holds
      obtain ⟨next, taken, holds, capacity⟩ := holds.take
      exact ⟨item, next, taken, holds.valid, capacity, by rw [holds.toList_eq]⟩

end Valid

end Queue.Ring

end LineTally
