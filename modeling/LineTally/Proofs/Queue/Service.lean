import LineTally.Proofs.Queue.Consistency

/-!
# A ring in service

A queue puts an item into its ring only while the ring is not full, and takes one only while the
ring is not empty.  A ring that has only been served in this way, since it was empty, is a bounded
list: the slots in use follow the head without a gap, around the end if need be, and all others are
empty.  So there is always a free slot to put into and an item to take, and what was put is what was
taken and then what is there still.
-/

namespace LineTally.Queue

variable {ι α : Type}

namespace Ring

/-- The ring was empty once, and since then these items were put, each while it was not full, and
these were taken, each while it was not empty. -/
inductive Served (capacity : Nat) : List α → List α → Ring α → Prop where
  | empty : Served capacity [] [] (.empty capacity)
  | put {placed taken : List α} {ring next : Ring α} {item : α}
      (served : Served capacity placed taken ring) (room : ring.isFull = false)
      (done : ring.put item = .ok next) : Served capacity (placed ++ [item]) taken next
  | take {placed taken : List α} {ring next : Ring α} {item : α}
      (served : Served capacity placed taken ring) (filled : 0 < ring.count)
      (done : ring.take = .ok (item, next)) : Served capacity placed (taken ++ [item]) next

/-- The slots that follow the head, as many as there are items, hold the items of the list in order,
and all other slots are empty. -/
structure Tidy (capacity : Nat) (ring : Ring α) : Prop where
  capacity_eq : ring.capacity = capacity
  head_lt : ring.head < capacity
  tail_lt : ring.tail < capacity
  count_le : ring.count ≤ capacity
  tail_eq : ring.tail = (ring.head + ring.count) % capacity
  length_eq : ring.toList.length = ring.count
  filled : ∀ offset < ring.count, ∃ item, ring.toList[offset]? = some item ∧
    ring.slots[(ring.head + offset) % capacity]? = some (some item)
  vacant : ∀ slot < capacity, (∀ offset < ring.count, slot ≠ (ring.head + offset) % capacity) →
    ring.slots[slot]? = some none

/-- Every slot is at some offset from the head. -/
theorem exists_offset {capacity head slot : Nat} (headIn : head < capacity)
    (slotIn : slot < capacity) : ∃ offset < capacity, slot = (head + offset) % capacity := by
  by_cases behind : head ≤ slot
  · refine ⟨slot - head, by omega, ?_⟩
    rw [Nat.add_sub_of_le behind, Nat.mod_eq_of_lt slotIn]
  · refine ⟨slot + capacity - head, by omega, ?_⟩
    have around : head + (slot + capacity - head) = slot + capacity := by omega
    rw [around, Nat.add_mod_right, Nat.mod_eq_of_lt slotIn]

theorem Valid.tidy {ring : Ring α} (valid : ring.Valid) : ring.Tidy ring.capacity := by
  have holds : ring.Holds ring.toList := valid
  constructor
  case capacity_eq => rfl
  case head_lt => exact holds.head_lt
  case tail_lt => exact holds.tail_eq ▸ Nat.mod_lt _ holds.capacity_pos
  case count_le => exact holds.count_eq ▸ holds.length_le
  case tail_eq => rw [holds.count_eq, ← holds.tail_eq]
  case length_eq => exact holds.count_eq.symm
  case filled =>
    intro offset inside
    rw [holds.count_eq] at inside
    have there : ring.toList[offset]? = some ring.toList[offset] :=
      List.getElem?_eq_getElem inside
    refine ⟨ring.toList[offset], there, ?_⟩
    rw [holds.slot_eq offset (lt_of_lt_of_le inside holds.length_le), there]
  case vacant =>
    intro slot slotIn unused
    rcases exists_offset holds.head_lt slotIn with ⟨offset, inside, rfl⟩
    have beyond : ring.toList.length ≤ offset := by
      by_contra used
      rw [not_le, ← holds.count_eq] at used
      exact unused offset used rfl
    rw [holds.slot_eq offset inside, List.getElem?_eq_none beyond]

/-- A ring in service is sound, and holds what was put and has not been taken. -/
theorem Served.valid {capacity : Count} (positive : 0 < capacity.toNat)
    {placed taken : List α} {ring : Ring α} (served : Served capacity.toNat placed taken ring) :
    ring.Valid ∧ ring.capacity = capacity.toNat ∧ placed = taken ++ ring.toList := by
  induction served with
  | empty => exact ⟨(holds_empty positive capacity.toNat_lt).valid, by simp, by simp⟩
  | @put placed taken ring next item served room done ih =>
      rcases ih with ⟨valid, slots, items⟩
      rcases valid.put item room with ⟨next', placed', sound, same, more⟩
      cases placed'.symm.trans done
      exact ⟨sound, same.trans slots, by rw [items, more, List.append_assoc]⟩
  | @take placed taken ring next item served filled done ih =>
      rcases ih with ⟨valid, slots, items⟩
      rcases valid.take filled.ne' with ⟨item', next', taken', sound, same, fewer⟩
      cases taken'.symm.trans done
      exact ⟨sound, same.trans slots, by rw [items, fewer, List.append_assoc]; rfl⟩

end Ring

/-- A queue serves its ring: whatever a thread does in its calls, it puts into the ring only while
there is room, and takes from it only while there is something to take. -/
theorem Turn.served {queue next : Queue ι α} {me : ι} {call after : Call α}
    {transfer : Option (Transfer α)} {capacity : Nat} {placed taken : List α}
    (turn : Turn me queue call transfer next after) (fits : Fits queue me call)
    (served : Ring.Served capacity placed taken queue.ring) :
    Ring.Served capacity (placed ++ entered transfer) (taken ++ departed transfer) next.ring := by
  cases turn with
  | pushPlaces pick unended put =>
      simpa [entered, departed] using served.put fits.ground put
  | popTakes pick filled take =>
      simpa [entered, departed] using served.take (Nat.pos_of_ne_zero filled) take
  | _ =>
      simpa [entered, departed, unlock, sleepAsWriter, sleepAsReader, raiseFlag] using served

end LineTally.Queue
