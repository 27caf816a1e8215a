import LineTally.Failure
import LineTally.Tally

/-!
# Result slots

One slot for the tally of each worker.  A slot keeps the first tally that it is given.  When the
slots are summed up, an empty one counts as the slot of a worker that failed.
-/

namespace LineTally

/-- A slot for each worker. -/
structure Slots where
  /-- The slots, by the numbers of the workers. -/
  entries : List (Option WorkerTally)
  deriving DecidableEq, Repr

namespace Slots

/-- The bytes of memory for one slot. -/
def slotSize : Nat := 40

/-- Empty slots. -/
def empty (workers : Nat) : Slots :=
  { entries := List.replicate workers none }

/-- Makes empty slots, if they can be had. -/
def create (workers : Nat) : Except Failure Slots := do
  allocate s!"result slots for {workers} workers" workers slotSize
  return empty workers

/-- The number of slots. -/
def size (slots : Slots) : Nat := slots.entries.length

/-- Whether there are no slots at all. -/
def isEmpty (slots : Slots) : Bool := slots.entries.isEmpty

/-- What is in a slot. -/
def get? (slots : Slots) (index : Nat) : Option WorkerTally :=
  (slots.entries[index]?).join

/-- Puts a tally into the slot of its worker, and says so in the log if that is not possible. -/
def record (slots : Slots) (tally : WorkerTally) : Slots × List LogLine :=
  match slots.entries[tally.index.toNat]? with
  | some none => ({ entries := slots.entries.set tally.index.toNat (some tally) }, [])
  | some (some _) =>
    (slots, [⟨.error, s!"Result slot {tally.index} written twice; keeping the first tally"⟩])
  | none =>
    (slots, [⟨.error,
      s!"Dropping tally for worker {tally.index}: only {slots.size} result slots"⟩])

/-- The tallies of some slots, the first of which has the given number. -/
def talliesFrom (index : Nat) : List (Option WorkerTally) → Except Fault (List WorkerTally)
  | [] => .ok []
  | slot :: rest => do
    let tally ← match slot with
      | some tally => .ok tally
      | none => WorkerTally.lost <$> Count.checked index
    return tally :: (← talliesFrom (index + 1) rest)

/-- Sums up all slots. -/
def aggregate (slots : Slots) : Except Fault Tally := do
  Tally.ofWorkers (← talliesFrom 0 slots.entries)

end Slots

end LineTally
