import LineTally.Count

/-!
# The rendezvous

A place where a fixed number of parties wait for one another, once.  The last to arrive completes
it and wakes the others.  It may be forfeited before: then nobody waits there any more.

The state of a rendezvous is only looked at under its lock and never changes outside, so arriving,
waking up and forfeiting are each a single step.
-/

namespace LineTally

/-- How a party leaves the rendezvous. -/
inductive Arrival where
  /-- Everybody arrived. -/
  | complete
  /-- The rendezvous was forfeited before. -/
  | forfeited
  deriving DecidableEq, Repr

/-- The name of an outcome. -/
def Arrival.label : Arrival → String
  | complete => "Complete"
  | forfeited => "Forfeited"

/-- A rendezvous; `ι` names the threads that come to it. -/
structure Rendezvous (ι : Type) where
  /-- The number of parties. -/
  parties : Nat
  /-- The parties that have arrived. -/
  arrived : Nat := 0
  /-- Everybody has arrived. -/
  complete : Bool
  /-- Nobody is waited for any more. -/
  forfeited : Bool := false
  /-- The threads that sleep until all have arrived. -/
  sleepers : List ι := []
  deriving DecidableEq, Repr

namespace Rendezvous

variable {ι : Type} [DecidableEq ι]

/-- A rendezvous at which nobody has arrived. -/
def ofParties (parties : Nat) : Rendezvous ι :=
  { parties, complete := parties == 0 }

/-- How a party leaves now, if it need not wait. -/
def arrival? (rendezvous : Rendezvous ι) : Option Arrival :=
  if rendezvous.complete then some .complete
  else if rendezvous.forfeited then some .forfeited
  else none

/-- A party arrives: it leaves again, or goes to sleep.  Nobody may come after the last. -/
def arrive (rendezvous : Rendezvous ι) (me : ι) :
    Except Fault (Rendezvous ι × Option Arrival) := do
  if rendezvous.parties ≤ rendezvous.arrived then throw .lateArrival
  let arrived ← Count.fitting (rendezvous.arrived + 1)
  let rendezvous := { rendezvous with arrived }
  if arrived = rendezvous.parties ∧ !rendezvous.forfeited then
    return ({ rendezvous with complete := true, sleepers := [] }, some .complete)
  match rendezvous.arrival? with
  | some arrival => return (rendezvous, some arrival)
  | none => return ({ rendezvous with sleepers := rendezvous.sleepers ++ [me] }, none)

/-- A party that went to sleep looks again: it has no step while nobody has woken it. -/
def resume? (rendezvous : Rendezvous ι) (me : ι) : Option (Rendezvous ι × Option Arrival) :=
  if me ∈ rendezvous.sleepers then none
  else
    match rendezvous.arrival? with
    | some arrival => some (rendezvous, some arrival)
    | none => some ({ rendezvous with sleepers := rendezvous.sleepers ++ [me] }, none)

/-- Stops waiting for parties that have not arrived; when all have, this changes nothing. -/
def forfeit (rendezvous : Rendezvous ι) : Rendezvous ι :=
  if rendezvous.complete then rendezvous
  else { rendezvous with forfeited := true, sleepers := [] }

end Rendezvous

end LineTally
