import LineTally.Count

/-!
# The ring

A fixed number of slots, used in turn.  Items are put into the slot at the tail and taken from the
slot at the head; both move on by one and start again behind the last slot.  Putting and taking
check that the slot is free or taken, and that no index outgrows a count.

The ring stands for the list of its items, oldest first.
-/

namespace LineTally.Queue

/-- Slots that are filled and emptied in turn. -/
structure Ring (α : Type) where
  /-- The slots. -/
  slots : Array (Option α)
  /-- The slot to take from next. -/
  head : Nat
  /-- The slot to put into next. -/
  tail : Nat
  /-- The number of slots that hold an item. -/
  count : Nat
  deriving DecidableEq, Repr

namespace Ring

variable {α : Type}

/-- A ring of empty slots. -/
def empty (capacity : Nat) : Ring α :=
  { slots := Array.replicate capacity none, head := 0, tail := 0, count := 0 }

/-- The number of slots. -/
def capacity (ring : Ring α) : Nat := ring.slots.size

/-- Whether every slot holds an item. -/
def isFull (ring : Ring α) : Bool := ring.count == ring.capacity

/-- Puts an item into the slot at the tail. -/
def put (ring : Ring α) (item : α) : Except Fault (Ring α) :=
  match ring.slots[ring.tail]? with
  | some none => do
    let tail ← Count.fitting (ring.tail + 1)
    let count ← Count.fitting (ring.count + 1)
    return { ring with
      slots := ring.slots.setIfInBounds ring.tail (some item)
      tail := tail % ring.capacity
      count }
  | _ => .error .slotTaken

/-- Takes the item from the slot at the head. -/
def take (ring : Ring α) : Except Fault (α × Ring α) :=
  match ring.slots[ring.head]? with
  | some (some item) => do
    let head ← Count.fitting (ring.head + 1)
    let count ← if ring.count = 0 then .error .underflow else .ok (ring.count - 1)
    return (item, { ring with
      slots := ring.slots.setIfInBounds ring.head none
      head := head % ring.capacity
      count })
  | _ => .error .slotEmpty

/-- The slots in use, in the order in which they will be emptied. -/
def used (ring : Ring α) : List (Option α) :=
  (List.range ring.count).map fun offset =>
    (ring.slots[(ring.head + offset) % ring.capacity]?).join

/-- The items in the ring, oldest first. -/
def toList (ring : Ring α) : List α :=
  ring.used.filterMap id

@[simp] theorem capacity_empty (capacity : Nat) :
    (empty capacity : Ring α).capacity = capacity := by
  simp [empty, Ring.capacity]

@[simp] theorem toList_empty (capacity : Nat) : (empty capacity : Ring α).toList = [] := by
  simp [toList, used, empty]

end Ring

end LineTally.Queue
