import LineTally.Failure
import LineTally.Queue.Ring

/-!
# The bounded queue

A queue of a fixed capacity between threads that push and threads that pop.  A push waits while the
queue is full, a pop while it is empty.  The end of the stream may be marked, once and for all:
then pushes are refused, and pops drain what is left.  The queue may be cancelled, also once and
for all: then pushes are refused and pops find nothing.

The ring and the mark are guarded by a lock, and a thread that waits sleeps until another wakes it.
The cancellation flag is read and set without the lock, so it may change between any two steps of
a thread that holds it.  Therefore a call is not one step: this module says where a thread can be
inside a call, and what its next step does to the queue.  A thread whose next step needs the lock
or a wake-up that is not there has no step.
-/

namespace LineTally

/-- What guards a queue, and what it guards; `ι` names the threads. -/
structure Queue (ι α : Type) where
  /-- The items. -/
  ring : Queue.Ring α
  /-- The end of the stream has been marked. -/
  ended : Bool := false
  /-- The queue has been cancelled. -/
  cancelled : Bool := false
  /-- The thread that holds the lock. -/
  holder : Option ι := none
  /-- The threads that sleep until there is room, longest first. -/
  writers : List ι := []
  /-- The threads that sleep until there is something to take, longest first. -/
  readers : List ι := []
  deriving Repr

namespace Queue

variable {ι α : Type} [DecidableEq ι]

/-- The bytes of memory for one slot. -/
def slotSize : Nat := 24

/-- An empty queue. -/
def empty (capacity : Nat) : Queue ι α :=
  { ring := Ring.empty capacity }

/-- Makes an empty queue, if its capacity is allowed and can be had. -/
def create (capacity : Nat) : Except Failure (Queue ι α) := do
  if capacity = 0 then throw (.config "queue capacity must be at least 1")
  allocate s!"queue of {capacity} slots" capacity slotSize
  return empty capacity

/-- Takes the lock, if it is free. -/
def lock? (queue : Queue ι α) (me : ι) : Option (Queue ι α) :=
  if queue.holder.isNone then some { queue with holder := some me } else none

/-- Gives the lock back. -/
def unlock (queue : Queue ι α) : Queue ι α :=
  { queue with holder := none }

/-- Gives the lock back and sleeps until there is room. -/
def sleepAsWriter (queue : Queue ι α) (me : ι) : Queue ι α :=
  { queue with holder := none, writers := queue.writers ++ [me] }

/-- Gives the lock back and sleeps until there is something to take. -/
def sleepAsReader (queue : Queue ι α) (me : ι) : Queue ι α :=
  { queue with holder := none, readers := queue.readers ++ [me] }

/-- The sleepers that are left when one of them is woken; `pick` says which. -/
def wakeOne (sleepers : List ι) (pick : Nat) : List ι :=
  sleepers.eraseIdx (pick % sleepers.length)

/-- What a step of a thread leads to inside a call. -/
inductive Progress (κ ρ : Type) where
  /-- The thread is now there. -/
  | at (position : κ)
  /-- The call has returned. -/
  | returned (result : ρ)
  deriving DecidableEq, Repr

/-- An item that entered or left the queue. -/
inductive Transfer (α : Type) where
  | put (item : α)
  | took (item : α)
  deriving DecidableEq, Repr

/-- A step of a thread inside a call. -/
structure Move (ι α κ ρ : Type) where
  /-- The queue after it. -/
  queue : Queue ι α
  /-- Where the thread is after it. -/
  progress : Progress κ ρ
  /-- What entered or left the queue by it. -/
  transfer : Option (Transfer α) := none
  deriving Repr

/-- Why an item was not put into the queue. -/
inductive Refusal where
  /-- The queue was cancelled. -/
  | cancelled
  /-- The end of the stream was marked before. -/
  | closed
  deriving DecidableEq, Repr

/-- The text by which a refusal is reported. -/
def Refusal.message : Refusal → String
  | cancelled => "queue cancelled"
  | closed => "queue closed"

/-- What a push answers. -/
inductive PushResult where
  /-- The item is in the queue. -/
  | placed
  /-- The item is dropped. -/
  | refused (reason : Refusal)
  /-- The thread faulted. -/
  | faulted (fault : Fault)
  deriving DecidableEq, Repr

/-- Where a thread is inside a push. -/
inductive Push (α : Type) where
  /-- Before taking the lock. -/
  | arriving (item : α)
  /-- With the lock, before testing for room. -/
  | testing (item : α)
  /-- With the lock, having found no room. -/
  | settling (item : α)
  /-- Asleep, or woken and before taking the lock again. -/
  | sleeping (item : α)
  /-- With the lock, no longer waiting for room, before reading the flag. -/
  | deciding (item : α)
  /-- With the lock, having found the flag clear. -/
  | placing (item : α)
  /-- With the lock, before giving it back. -/
  | leaving (result : PushResult)
  deriving DecidableEq, Repr

/-- Puts an item into the queue and wakes a sleeping reader, unless the stream has ended. -/
def place (queue : Queue ι α) (pick : Nat) (item : α) : Move ι α (Push α) PushResult :=
  if queue.ended then { queue, progress := .at (.leaving (.refused .closed)) }
  else
    match queue.ring.put item with
    | .ok ring => {
        queue := { queue with ring, readers := wakeOne queue.readers pick }
        progress := .at (.leaving .placed)
        transfer := some (.put item) }
    | .error fault => { queue, progress := .at (.leaving (.faulted fault)) }

/-- The next step of a thread inside a push. -/
def Push.step (queue : Queue ι α) (me : ι) (pick : Nat) :
    Push α → Option (Move ι α (Push α) PushResult)
  | .arriving item => (queue.lock? me).map ({ queue := ·, progress := .at (.testing item) })
  | .testing item => some {
      queue
      progress := .at (if queue.ring.isFull && !queue.cancelled then .settling item
        else .deciding item) }
  | .settling item => some { queue := queue.sleepAsWriter me, progress := .at (.sleeping item) }
  | .sleeping item =>
    if me ∈ queue.writers then none
    else (queue.lock? me).map ({ queue := ·, progress := .at (.testing item) })
  | .deciding item => some {
      queue
      progress := .at (if queue.cancelled then .leaving (.refused .cancelled)
        else .placing item) }
  | .placing item => some (queue.place pick item)
  | .leaving result => some { queue := queue.unlock, progress := .returned result }

/-- What a pop answers: an item or none, unless the thread faulted. -/
abbrev PopResult (α : Type) := Except Fault (Option α)

/-- Where a thread is inside a pop. -/
inductive Pop (α : Type) where
  /-- Before taking the lock. -/
  | arriving
  /-- With the lock, before testing for an item. -/
  | testing
  /-- With the lock, having found nothing to take and no reason to give up. -/
  | settling
  /-- Asleep, or woken and before taking the lock again. -/
  | sleeping
  /-- With the lock, no longer waiting for an item, before reading the flag. -/
  | deciding
  /-- With the lock, having found the flag clear. -/
  | taking
  /-- With the lock, before giving it back. -/
  | leaving (result : PopResult α)
  deriving Repr

/-- Takes the oldest item, if there is one, and wakes a sleeping writer. -/
def takeOldest (queue : Queue ι α) (pick : Nat) : Move ι α (Pop α) (PopResult α) :=
  if queue.ring.count = 0 then { queue, progress := .at (.leaving (.ok none)) }
  else
    match queue.ring.take with
    | .ok (item, ring) => {
        queue := { queue with ring, writers := wakeOne queue.writers pick }
        progress := .at (.leaving (.ok (some item)))
        transfer := some (.took item) }
    | .error fault => { queue, progress := .at (.leaving (.error fault)) }

/-- The next step of a thread inside a pop. -/
def Pop.step (queue : Queue ι α) (me : ι) (pick : Nat) :
    Pop α → Option (Move ι α (Pop α) (PopResult α))
  | .arriving => (queue.lock? me).map ({ queue := ·, progress := .at .testing })
  | .testing => some {
      queue
      progress := .at (if queue.ring.count == 0 && !queue.ended && !queue.cancelled
        then .settling else .deciding) }
  | .settling => some { queue := queue.sleepAsReader me, progress := .at .sleeping }
  | .sleeping =>
    if me ∈ queue.readers then none
    else (queue.lock? me).map ({ queue := ·, progress := .at .testing })
  | .deciding => some {
      queue
      progress := .at (if queue.cancelled then .leaving (.ok none) else .taking) }
  | .taking => some (queue.takeOldest pick)
  | .leaving result => some { queue := queue.unlock, progress := .returned result }

/-- Where a thread is inside a call that marks the end of the stream. -/
inductive EndStream where
  /-- Before taking the lock. -/
  | arriving
  /-- With the lock, before looking at the mark. -/
  | marking
  /-- With the lock, before giving it back; the first such call answers `true`. -/
  | leaving (first : Bool)
  deriving DecidableEq, Repr

/-- The next step of a thread that marks the end of the stream. -/
def EndStream.step (queue : Queue ι α) (me : ι) : EndStream → Option (Move ι α EndStream Bool)
  | .arriving => (queue.lock? me).map ({ queue := ·, progress := .at .marking })
  | .marking =>
    if queue.ended then some { queue, progress := .at (.leaving false) }
    else some {
      queue := { queue with ended := true, readers := [] }
      progress := .at (.leaving true) }
  | .leaving first => some { queue := queue.unlock, progress := .returned first }

/-- Where a thread is inside a call that cancels the queue. -/
inductive Cancel where
  /-- Before setting the flag. -/
  | raising
  /-- With the flag set, before taking the lock; `first` says who set it. -/
  | arriving (first : Bool)
  /-- With the lock, before waking everybody. -/
  | waking (first : Bool)
  /-- With the lock, before giving it back; the call that set the flag answers `true`. -/
  | leaving (first : Bool)
  deriving DecidableEq, Repr

/-- Sets the flag, and nothing else. -/
def raiseFlag (queue : Queue ι α) : Queue ι α :=
  { queue with cancelled := true }

/-- The next step of a thread that cancels the queue. -/
def Cancel.step (queue : Queue ι α) (me : ι) : Cancel → Option (Move ι α Cancel Bool)
  | .raising => some {
      queue := queue.raiseFlag
      progress := .at (.arriving !queue.cancelled) }
  | .arriving first =>
    (queue.lock? me).map ({ queue := ·, progress := .at (.waking first) })
  | .waking first => some {
      queue := { queue with writers := [], readers := [] }
      progress := .at (.leaving first) }
  | .leaving first => some { queue := queue.unlock, progress := .returned first }

end Queue

end LineTally
