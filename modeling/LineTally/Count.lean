/-!
# Counts

A count is a number of lines, matches, slots or threads.  It fits a 64-bit machine word, and
arithmetic on it never wraps: a result that does not fit is a `Fault`, which ends the work of the
thread that computed it.
-/

namespace LineTally

/-- What ends the work of a thread from the inside. -/
inductive Fault where
  /-- A sum does not fit a count. -/
  | overflow
  /-- A difference would be negative. -/
  | underflow
  /-- The slot about to be written is taken, or there is no such slot. -/
  | slotTaken
  /-- The slot about to be emptied holds nothing, or there is no such slot. -/
  | slotEmpty
  /-- A party came to a rendezvous at which everybody had arrived. -/
  | lateArrival
  /-- Code supplied by the caller gave up, with this message. -/
  | raised (message : String)
  deriving DecidableEq, Repr

/-- The text by which a fault is reported. -/
def Fault.message : Fault → String
  | overflow => "attempt to add with overflow"
  | underflow => "attempt to subtract with overflow"
  | slotTaken => "slot already taken"
  | slotEmpty => "slot already empty"
  | lateArrival => "rendezvous is one-shot"
  | raised message => message

/-- The number of different counts: all are below it. -/
def Count.limit : Nat := Nat.pow 2 64

/-- A number that fits a 64-bit word. -/
structure Count where
  /-- The number itself. -/
  toNat : Nat
  /-- It fits. -/
  toNat_lt : toNat < Count.limit
  deriving DecidableEq

namespace Count

@[ext] theorem ext {left right : Count} (same : left.toNat = right.toNat) : left = right := by
  cases left; cases right; cases same; rfl

/-- The number as a count, if it fits. -/
def ofNat? (number : Nat) : Option Count :=
  if fits : number < limit then some ⟨number, fits⟩ else none

/-- The number as a count, or the fault of one that does not fit. -/
def checked (number : Nat) : Except Fault Count :=
  if fits : number < limit then .ok ⟨number, fits⟩ else .error .overflow

/-- A number that must fit a count, or the fault of one that does not. -/
def fitting (number : Nat) : Except Fault Nat :=
  if number < limit then .ok number else .error .overflow

instance : Zero Count := ⟨⟨0, by decide⟩⟩
instance : One Count := ⟨⟨1, by decide⟩⟩
instance : Inhabited Count := ⟨0⟩
instance : ToString Count := ⟨fun count => toString count.toNat⟩
instance : Repr Count := ⟨fun count _ => repr count.toNat⟩

@[simp] theorem toNat_zero : (0 : Count).toNat = 0 := rfl
@[simp] theorem toNat_one : (1 : Count).toNat = 1 := rfl

/-- One more. -/
def succ (count : Count) : Except Fault Count :=
  checked (count.toNat + 1)

/-- The sum of two counts. -/
def add (left right : Count) : Except Fault Count :=
  checked (left.toNat + right.toNat)

/-- The sum of counts, added up from the left; it faults at the first partial sum that does not
fit. -/
def sum (counts : List Count) : Except Fault Count :=
  counts.foldlM add 0

@[simp] theorem ofNat?_toNat (count : Count) : ofNat? count.toNat = some count := by
  simp [ofNat?, count.toNat_lt]

end Count

end LineTally
