import LineTally.Rendezvous
import LineTally.Threads

/-!
# Threads at one rendezvous

A meeting is a rendezvous and the threads that come to it, each on its own account.
-/

namespace LineTally

namespace Meeting

/-- Where a thread is that comes to the rendezvous. -/
inductive Guest where
  /-- Before arriving. -/
  | arriving
  /-- Asleep, or woken and before looking again. -/
  | waiting
  /-- Gone. -/
  | left (arrival : Arrival)
  /-- Ended by a fault. -/
  | died (fault : Fault)
  deriving DecidableEq, Repr

/-- Where a guest is who need not wait, or must. -/
def Guest.ofArrival : Option Arrival → Guest
  | some arrival => .left arrival
  | none => .waiting

/-- The next step of a guest. -/
def Guest.step (rendezvous : Rendezvous Nat) (me : Nat) : Guest → Option (Rendezvous Nat × Guest)
  | .arriving =>
    match rendezvous.arrive me with
    | .ok (rendezvous, arrival?) => some (rendezvous, .ofArrival arrival?)
    | .error fault => some (rendezvous, .died fault)
  | .waiting => (rendezvous.resume? me).map fun (rendezvous, arrival?) =>
    (rendezvous, .ofArrival arrival?)
  | .left _ => none
  | .died _ => none

end Meeting

/-- A rendezvous and its guests, in the order in which they came. -/
structure Meeting where
  rendezvous : Rendezvous Nat
  guests : List Meeting.Guest := []
  deriving DecidableEq, Repr

namespace Meeting

/-- A rendezvous to which nobody has come. -/
def ofParties (parties : Nat) : Meeting :=
  { rendezvous := .ofParties parties }

/-- The guests of a meeting take turns. -/
def system : System Meeting Nat Empty where
  step guest _ meeting := do
    let there ← meeting.guests[guest]?
    let (rendezvous, moved) ← there.step meeting.rendezvous guest
    return ({ rendezvous, guests := meeting.guests.set guest moved }, [])

/-- What may happen at a meeting. -/
inductive Happening where
  /-- Somebody comes, who is about to arrive. -/
  | comes
  /-- A guest goes on. -/
  | goesOn (guest : Nat)
  /-- The rendezvous is forfeited. -/
  | forfeits
  deriving DecidableEq, Repr

/-- A meeting to which guests come at any time, and whose rendezvous is forfeited at any time and
any number of times, while its guests take turns. -/
def openSystem : System Meeting Happening Empty where
  step happening pick meeting :=
    match happening with
    | .comes => some ({ meeting with guests := meeting.guests ++ [.arriving] }, [])
    | .goesOn guest => system.step guest pick meeting
    | .forfeits => some ({ meeting with rendezvous := meeting.rendezvous.forfeit }, [])

/-- Lets the guests go on until each has left or sleeps. -/
def settle (meeting : Meeting) : Meeting :=
  (system.settle (fun meeting => List.range meeting.guests.length)
    (2 * meeting.guests.length + 2) meeting).1

/-- A guest comes. -/
def come (meeting : Meeting) : Meeting :=
  settle { meeting with guests := meeting.guests ++ [.arriving] }

/-- The rendezvous is forfeited. -/
def forfeit (meeting : Meeting) : Meeting :=
  settle { meeting with rendezvous := meeting.rendezvous.forfeit }

end Meeting

end LineTally
