import LineTally.Proofs.Queue.Ring
import LineTally.Queue.Action

/-!
# Threads inside the calls of a queue

A thread is away from the queue or somewhere inside one of its calls.  `Turn` lists, once and for
all, what one step of a thread can do to the queue from each of these places; everything that holds
in every interleaving is derived from it.

Whatever the other threads do, a place in a call says something about the queue: who holds the lock,
who is asleep, and what was found out under the lock and cannot have changed since.  `Consistent`
collects this for all threads.
-/

namespace LineTally.Queue

variable {ι α : Type}

/-- Where a thread is with regard to a queue. -/
inductive Call (α : Type) where
  /-- Outside of every call. -/
  | away
  | push (place : Push α)
  | pop (place : Pop α)
  | endStream (place : EndStream)
  | cancel (place : Cancel)
  /-- Before setting the flag and waking nobody. -/
  | raiseFlag

/-- The items that entered the queue by a step. -/
def entered : Option (Transfer α) → List α
  | some (.put item) => [item]
  | _ => []

/-- The items that left the queue by a step. -/
def departed : Option (Transfer α) → List α
  | some (.took item) => [item]
  | _ => []

namespace Call

/-- The thread is away, or has not taken a step in its call. -/
inductive Idle : Call α → Prop where
  | away : Idle .away
  | push (item : α) : Idle (.push (.arriving item))
  | pop : Idle (.pop .arriving)
  | endStream : Idle (.endStream .arriving)
  | cancel : Idle (.cancel .raising)
  | raiseFlag : Idle .raiseFlag

/-- The places at which a thread holds the lock. -/
def holdsLock : Call α → Bool
  | .push (.arriving _) | .push (.sleeping _) => false
  | .push _ => true
  | .pop .arriving | .pop .sleeping => false
  | .pop _ => true
  | .endStream .arriving => false
  | .endStream _ => true
  | .cancel .raising | .cancel (.arriving _) => false
  | .cancel _ => true
  | .away | .raiseFlag => false

/-- What a place says about the queue. -/
def Grounded (queue : Queue ι α) : Call α → Prop
  | .push (.settling _) => queue.ring.isFull = true
  | .push (.deciding _) => queue.ring.isFull = false ∨ queue.cancelled = true
  | .push (.placing _) => queue.ring.isFull = false
  | .push (.leaving (.refused .cancelled)) => queue.cancelled = true
  | .push (.leaving (.refused .closed)) => queue.ended = true
  | .push (.leaving (.faulted _)) => False
  | .pop .settling => queue.ring.count = 0 ∧ queue.ended = false
  | .pop .deciding => queue.ring.count ≠ 0 ∨ queue.ended = true ∨ queue.cancelled = true
  | .pop .taking => queue.ring.count ≠ 0 ∨ queue.ended = true
  | .pop (.leaving (.ok none)) =>
      queue.cancelled = true ∨ queue.ended = true ∧ queue.ring.count = 0
  | .pop (.leaving (.error _)) => False
  | .endStream (.leaving _) => queue.ended = true
  | .cancel .raising => True
  | .cancel _ => queue.cancelled = true
  | _ => True

/-- Where a thread goes on: there, or, if it has nothing to finish, at the start of any call. -/
def Leads (before after : Call α) : Prop :=
  before = after ∨ before.Idle ∧ after.Idle

end Call

open Call

/-- One step of a thread in its call: where it is, what enters or leaves the queue, the queue
after it and where the thread is then. -/
inductive Turn (me : ι) (queue : Queue ι α) :
    Call α → Option (Transfer α) → Queue ι α → Call α → Prop where
  | stays (call : Call α) : Turn me queue call none queue call
  | pushEnters {item : α} (free : queue.holder = none) :
      Turn me queue (.push (.arriving item)) none { queue with holder := some me }
        (.push (.testing item))
  | pushReenters {item : α} (awake : me ∉ queue.writers) (free : queue.holder = none) :
      Turn me queue (.push (.sleeping item)) none { queue with holder := some me }
        (.push (.testing item))
  | pushFindsFull {item : α} (full : queue.ring.isFull = true)
      (clear : queue.cancelled = false) :
      Turn me queue (.push (.testing item)) none queue (.push (.settling item))
  | pushGoesOn {item : α} (reason : queue.ring.isFull = false ∨ queue.cancelled = true) :
      Turn me queue (.push (.testing item)) none queue (.push (.deciding item))
  | pushSleeps {item : α} :
      Turn me queue (.push (.settling item)) none (queue.sleepAsWriter me)
        (.push (.sleeping item))
  | pushCancelled {item : α} (cancelled : queue.cancelled = true) :
      Turn me queue (.push (.deciding item)) none queue
        (.push (.leaving (.refused .cancelled)))
  | pushCleared {item : α} (clear : queue.cancelled = false) :
      Turn me queue (.push (.deciding item)) none queue (.push (.placing item))
  | pushClosed {item : α} (ended : queue.ended = true) :
      Turn me queue (.push (.placing item)) none queue (.push (.leaving (.refused .closed)))
  | pushPlaces {item : α} {ring : Ring α} (pick : Nat) (unended : queue.ended = false)
      (put : queue.ring.put item = .ok ring) :
      Turn me queue (.push (.placing item)) (some (.put item))
        { queue with ring, readers := wakeOne queue.readers pick } (.push (.leaving .placed))
  | pushFaults {item : α} {fault : Fault} (put : queue.ring.put item = .error fault) :
      Turn me queue (.push (.placing item)) none queue (.push (.leaving (.faulted fault)))
  | pushLeaves {result : PushResult} :
      Turn me queue (.push (.leaving result)) none queue.unlock .away
  | popEnters (free : queue.holder = none) :
      Turn me queue (.pop .arriving) none { queue with holder := some me } (.pop .testing)
  | popReenters (awake : me ∉ queue.readers) (free : queue.holder = none) :
      Turn me queue (.pop .sleeping) none { queue with holder := some me } (.pop .testing)
  | popFindsNone (empty : queue.ring.count = 0) (unended : queue.ended = false)
      (clear : queue.cancelled = false) :
      Turn me queue (.pop .testing) none queue (.pop .settling)
  | popGoesOn (reason : queue.ring.count ≠ 0 ∨ queue.ended = true ∨ queue.cancelled = true) :
      Turn me queue (.pop .testing) none queue (.pop .deciding)
  | popSleeps :
      Turn me queue (.pop .settling) none (queue.sleepAsReader me) (.pop .sleeping)
  | popCancelled (cancelled : queue.cancelled = true) :
      Turn me queue (.pop .deciding) none queue (.pop (.leaving (.ok none)))
  | popCleared (clear : queue.cancelled = false) :
      Turn me queue (.pop .deciding) none queue (.pop .taking)
  | popDrained (empty : queue.ring.count = 0) :
      Turn me queue (.pop .taking) none queue (.pop (.leaving (.ok none)))
  | popTakes {item : α} {ring : Ring α} (pick : Nat) (filled : queue.ring.count ≠ 0)
      (take : queue.ring.take = .ok (item, ring)) :
      Turn me queue (.pop .taking) (some (.took item))
        { queue with ring, writers := wakeOne queue.writers pick }
        (.pop (.leaving (.ok (some item))))
  | popFaults {fault : Fault} (filled : queue.ring.count ≠ 0)
      (take : queue.ring.take = .error fault) :
      Turn me queue (.pop .taking) none queue (.pop (.leaving (.error fault)))
  | popLeaves {result : PopResult α} :
      Turn me queue (.pop (.leaving result)) none queue.unlock .away
  | endEnters (free : queue.holder = none) :
      Turn me queue (.endStream .arriving) none { queue with holder := some me }
        (.endStream .marking)
  | endRepeats (ended : queue.ended = true) :
      Turn me queue (.endStream .marking) none queue (.endStream (.leaving false))
  | endMarks (unended : queue.ended = false) :
      Turn me queue (.endStream .marking) none { queue with ended := true, readers := [] }
        (.endStream (.leaving true))
  | endLeaves {first : Bool} :
      Turn me queue (.endStream (.leaving first)) none queue.unlock .away
  | cancelRaises :
      Turn me queue (.cancel .raising) none queue.raiseFlag
        (.cancel (.arriving !queue.cancelled))
  | cancelEnters {first : Bool} (free : queue.holder = none) :
      Turn me queue (.cancel (.arriving first)) none { queue with holder := some me }
        (.cancel (.waking first))
  | cancelWakes {first : Bool} :
      Turn me queue (.cancel (.waking first)) none { queue with writers := [], readers := [] }
        (.cancel (.leaving first))
  | cancelLeaves {first : Bool} :
      Turn me queue (.cancel (.leaving first)) none queue.unlock .away
  | raises : Turn me queue .raiseFlag none queue.raiseFlag .away

/-- A step of a thread with regard to a queue: a turn in its call, and on to what follows. -/
def Advances (me : ι) (queue : Queue ι α) (before : Call α) (transfer : Option (Transfer α))
    (next : Queue ι α) (after : Call α) : Prop :=
  ∃ between, Turn me queue before transfer next between ∧ between.Leads after

section Advances

variable {queue next : Queue ι α} {me : ι} {before after : Call α}
variable {transfer : Option (Transfer α)}

theorem Turn.advances (turn : Turn me queue before transfer next after) :
    Advances me queue before transfer next after :=
  ⟨after, turn, Or.inl rfl⟩

/-- A thread whose call is over goes on. -/
theorem Turn.advances_to (turn : Turn me queue before transfer next .away)
    (idle : after.Idle) : Advances me queue before transfer next after :=
  ⟨.away, turn, Or.inr ⟨.away, idle⟩⟩

/-- A thread with nothing to finish goes on without touching the queue. -/
theorem Call.Idle.advances (idle : before.Idle) (start : after.Idle) :
    Advances me queue before none queue after :=
  ⟨before, .stays before, Or.inr ⟨idle, start⟩⟩

end Advances

/-- Only a call that marks the end of the stream ends it. -/
theorem Advances.ended_eq {queue next : Queue ι α} {me : ι} {before after : Call α}
    {transfer : Option (Transfer α)} (advances : Advances me queue before transfer next after)
    (elsewhere : before ≠ .endStream .marking) : next.ended = queue.ended := by
  rcases advances with ⟨between, turn, -⟩
  cases turn with
  | endMarks => exact absurd rfl elsewhere
  | _ => rfl

/-- The end of the stream stays marked. -/
theorem Advances.ended_mono {queue next : Queue ι α} {me : ι} {before after : Call α}
    {transfer : Option (Transfer α)} (advances : Advances me queue before transfer next after)
    (marked : queue.ended = true) : next.ended = true := by
  rcases advances with ⟨between, turn, -⟩
  cases turn with
  | endMarks => rfl
  | _ => exact marked

/-- Only a push puts an item. -/
theorem Advances.entered_eq_nil {queue next : Queue ι α} {me : ι} {before after : Call α}
    {transfer : Option (Transfer α)} (advances : Advances me queue before transfer next after)
    (elsewhere : ∀ push, before ≠ .push push) : entered transfer = [] := by
  rcases advances with ⟨between, turn, -⟩
  cases turn with
  | pushPlaces => exact absurd rfl (elsewhere _)
  | _ => rfl

/-- Only a pop takes an item. -/
theorem Advances.departed_eq_nil {queue next : Queue ι α} {me : ι} {before after : Call α}
    {transfer : Option (Transfer α)} (advances : Advances me queue before transfer next after)
    (elsewhere : ∀ pop, before ≠ .pop pop) : departed transfer = [] := by
  rcases advances with ⟨between, turn, -⟩
  cases turn with
  | popTakes => exact absurd rfl (elsewhere _)
  | _ => rfl

/-- The flag stays set. -/
theorem Advances.cancelled_mono {queue next : Queue ι α} {me : ι} {before after : Call α}
    {transfer : Option (Transfer α)} (advances : Advances me queue before transfer next after)
    (set : queue.cancelled = true) : next.cancelled = true := by
  rcases advances with ⟨between, turn, -⟩
  cases turn with
  | cancelRaises | raises => rfl
  | _ => exact set

/-- Only a call that cancels the queue, and who sets the flag alone, sets it. -/
theorem Advances.cancelled_eq {queue next : Queue ι α} {me : ι} {before after : Call α}
    {transfer : Option (Transfer α)} (advances : Advances me queue before transfer next after)
    (elsewhere : ∀ place, before ≠ .cancel place) (careful : before ≠ .raiseFlag) :
    next.cancelled = queue.cancelled := by
  rcases advances with ⟨between, turn, -⟩
  cases turn with
  | cancelRaises => exact absurd rfl (elsewhere _)
  | raises => exact absurd rfl careful
  | _ => rfl

/-! ## The calls take such turns -/

/-- Where a thread is after a step in a call: somewhere in it, or away. -/
def Progress.call {κ ρ : Type} (place : κ → Call α) : Progress κ ρ → Call α
  | .at position => place position
  | .returned _ => .away

theorem lock?_eq_some {queue next : Queue ι α} {me : ι} (locked : queue.lock? me = some next) :
    queue.holder = none ∧ next = { queue with holder := some me } := by
  unfold lock? at locked
  split at locked
  next free => exact ⟨by simpa using free, (Option.some.inj locked).symm⟩
  next => cases locked

theorem EndStream.turn {queue : Queue ι α} {me : ι} {call : EndStream}
    {move : Move ι α EndStream Bool} (stepped : call.step queue me = some move) :
    Turn me queue (.endStream call) none move.queue (move.progress.call .endStream) ∧
      move.transfer = none := by
  cases call with
  | arriving =>
      obtain ⟨next, locked, rfl⟩ := Option.map_eq_some_iff.mp stepped
      obtain ⟨free, rfl⟩ := lock?_eq_some locked
      exact ⟨.endEnters free, rfl⟩
  | marking =>
      simp only [EndStream.step] at stepped
      split at stepped
      next ended =>
        cases stepped
        exact ⟨.endRepeats ended, rfl⟩
      next unended =>
        cases stepped
        exact ⟨.endMarks (by simpa using unended), rfl⟩
  | leaving first =>
      cases stepped
      exact ⟨.endLeaves, rfl⟩

theorem Cancel.turn {queue : Queue ι α} {me : ι} {call : Cancel}
    {move : Move ι α Cancel Bool} (stepped : call.step queue me = some move) :
    Turn me queue (.cancel call) none move.queue (move.progress.call .cancel) ∧
      move.transfer = none := by
  cases call with
  | raising =>
      cases stepped
      exact ⟨.cancelRaises, rfl⟩
  | arriving first =>
      obtain ⟨next, locked, rfl⟩ := Option.map_eq_some_iff.mp stepped
      obtain ⟨free, rfl⟩ := lock?_eq_some locked
      exact ⟨.cancelEnters free, rfl⟩
  | waking first =>
      cases stepped
      exact ⟨.cancelWakes, rfl⟩
  | leaving first =>
      cases stepped
      exact ⟨.cancelLeaves, rfl⟩

/-- Where a thread is that acts on a queue. -/
def Acting.call : Acting → Call α
  | .cancelling call | .shuttingDown call => .cancel call
  | .ending call => .endStream call
  | .raisingFlag => .raiseFlag

theorem Action.start_idle (action : Action) : (action.start.call : Call α).Idle := by
  cases action <;> constructor

theorem Acting.turn {queue : Queue ι α} {me : ι} {acting : Acting} {acted : Acted ι α}
    (stepped : acting.step queue me = some acted) :
    Turn me queue acting.call none acted.queue (acted.progress.call Acting.call) := by
  cases acting with
  | cancelling call | shuttingDown call =>
      obtain ⟨move, moved, rfl⟩ := Option.map_eq_some_iff.mp stepped
      have turn := (Cancel.turn moved).1
      cases progress : move.progress <;>
        simpa [progress, Progress.call, Acting.call] using turn
  | ending call =>
      obtain ⟨move, moved, rfl⟩ := Option.map_eq_some_iff.mp stepped
      have turn := (EndStream.turn moved).1
      cases progress : move.progress <;>
        simpa [progress, Progress.call, Acting.call] using turn
  | raisingFlag =>
      cases stepped
      exact .raises

variable [DecidableEq ι]

theorem Push.turn {queue : Queue ι α} {me : ι} {pick : Nat} {push : Push α}
    {move : Move ι α (Push α) PushResult} (stepped : push.step queue me pick = some move) :
    Turn me queue (.push push) move.transfer move.queue (move.progress.call .push) := by
  cases push with
  | arriving item =>
      obtain ⟨next, locked, rfl⟩ := Option.map_eq_some_iff.mp stepped
      obtain ⟨free, rfl⟩ := lock?_eq_some locked
      exact .pushEnters free
  | testing item =>
      cases stepped
      by_cases full : queue.ring.isFull = true ∧ queue.cancelled = false
      · simpa [full, Progress.call] using Turn.pushFindsFull full.1 full.2
      · have reason : queue.ring.isFull = false ∨ queue.cancelled = true := by grind
        have found : (queue.ring.isFull && !queue.cancelled) = false := by
          rcases reason with room | cancelled
          · simp [room]
          · simp [cancelled]
        simpa [found, Progress.call] using Turn.pushGoesOn reason
  | settling item =>
      cases stepped
      exact .pushSleeps
  | sleeping item =>
      simp only [Push.step] at stepped
      split at stepped
      · cases stepped
      next awake =>
        obtain ⟨next, locked, rfl⟩ := Option.map_eq_some_iff.mp stepped
        obtain ⟨free, rfl⟩ := lock?_eq_some locked
        exact .pushReenters awake free
  | deciding item =>
      cases stepped
      cases flag : queue.cancelled with
      | true => simpa [Progress.call] using Turn.pushCancelled flag
      | false => simpa [Progress.call] using Turn.pushCleared flag
  | placing item =>
      cases stepped
      cases mark : queue.ended with
      | true => simpa [place, mark, Progress.call] using Turn.pushClosed mark
      | false =>
          cases put : queue.ring.put item with
          | ok ring => simpa [place, mark, put, Progress.call] using Turn.pushPlaces pick mark put
          | error fault => simpa [place, mark, put, Progress.call] using Turn.pushFaults put
  | leaving result =>
      cases stepped
      exact .pushLeaves

theorem Pop.turn {queue : Queue ι α} {me : ι} {pick : Nat} {pop : Pop α}
    {move : Move ι α (Pop α) (PopResult α)} (stepped : pop.step queue me pick = some move) :
    Turn me queue (.pop pop) move.transfer move.queue (move.progress.call .pop) := by
  cases pop with
  | arriving =>
      obtain ⟨next, locked, rfl⟩ := Option.map_eq_some_iff.mp stepped
      obtain ⟨free, rfl⟩ := lock?_eq_some locked
      exact .popEnters free
  | testing =>
      cases stepped
      by_cases none : queue.ring.count = 0 ∧ queue.ended = false ∧ queue.cancelled = false
      · simpa [none, Progress.call] using Turn.popFindsNone none.1 none.2.1 none.2.2
      · have reason : queue.ring.count ≠ 0 ∨ queue.ended = true ∨ queue.cancelled = true := by
          grind
        have found : (queue.ring.count == 0 && !queue.ended && !queue.cancelled) = false := by
          rcases reason with filled | ended | cancelled
          · simp [filled]
          · simp [ended]
          · simp [cancelled]
        simpa [found, Progress.call] using Turn.popGoesOn reason
  | settling =>
      cases stepped
      exact .popSleeps
  | sleeping =>
      simp only [Pop.step] at stepped
      split at stepped
      · cases stepped
      next awake =>
        obtain ⟨next, locked, rfl⟩ := Option.map_eq_some_iff.mp stepped
        obtain ⟨free, rfl⟩ := lock?_eq_some locked
        exact .popReenters awake free
  | deciding =>
      cases stepped
      cases flag : queue.cancelled with
      | true => simpa [Progress.call] using Turn.popCancelled flag
      | false => simpa [Progress.call] using Turn.popCleared flag
  | taking =>
      cases stepped
      by_cases empty : queue.ring.count = 0
      · simpa [takeOldest, empty, Progress.call] using Turn.popDrained empty
      · cases take : queue.ring.take with
        | ok taken =>
            obtain ⟨item, ring⟩ := taken
            simpa [takeOldest, empty, take, Progress.call] using Turn.popTakes pick empty take
        | error fault =>
            simpa [takeOldest, empty, take, Progress.call] using Turn.popFaults empty take
  | leaving result =>
      cases stepped
      exact .popLeaves

/-! ## No step stays where it is -/

omit [DecidableEq ι] in
theorem EndStream.moves_on {queue : Queue ι α} {me : ι} {call : EndStream}
    {move : Move ι α EndStream Bool} (stepped : call.step queue me = some move) :
    (move.progress.call .endStream : Call α) ≠ .endStream call := by
  cases call <;> grind [Option.map_eq_some_iff, EndStream.step, Progress.call]

omit [DecidableEq ι] in
theorem Cancel.moves_on {queue : Queue ι α} {me : ι} {call : Cancel}
    {move : Move ι α Cancel Bool} (stepped : call.step queue me = some move) :
    (move.progress.call .cancel : Call α) ≠ .cancel call := by
  cases call <;> grind [Option.map_eq_some_iff, Cancel.step, Progress.call]

omit [DecidableEq ι] in
theorem Acting.moves_on {queue : Queue ι α} {me : ι} {acting : Acting} {acted : Acted ι α}
    (stepped : acting.step queue me = some acted) :
    (acted.progress.call Acting.call : Call α) ≠ acting.call := by
  cases acting with
  | cancelling call | shuttingDown call =>
      obtain ⟨move, moved, rfl⟩ := Option.map_eq_some_iff.mp stepped
      have onwards := Cancel.moves_on moved
      cases progress : move.progress with
      | «at» next => simpa [progress, Progress.call, Acting.call] using onwards
      | returned first => simp [Progress.call, Acting.call]
  | ending call =>
      obtain ⟨move, moved, rfl⟩ := Option.map_eq_some_iff.mp stepped
      have onwards := EndStream.moves_on moved
      cases progress : move.progress with
      | «at» next => simpa [progress, Progress.call, Acting.call] using onwards
      | returned first => simp [Progress.call, Acting.call]
  | raisingFlag =>
      cases stepped
      simp [Progress.call, Acting.call]

theorem Push.moves_on {queue : Queue ι α} {me : ι} {pick : Nat} {push : Push α}
    {move : Move ι α (Push α) PushResult} (stepped : push.step queue me pick = some move) :
    move.progress.call .push ≠ .push push := by
  cases push <;> grind [Option.map_eq_some_iff, Push.step, Progress.call, place]

theorem Pop.moves_on {queue : Queue ι α} {me : ι} {pick : Nat} {pop : Pop α}
    {move : Move ι α (Pop α) (PopResult α)} (stepped : pop.step queue me pick = some move) :
    move.progress.call .pop ≠ .pop pop := by
  cases pop <;> grind [Option.map_eq_some_iff, Pop.step, Progress.call, takeOldest]

/-! ## Items on their way -/

/-- A push is one of this item, as long as it still has an item. -/
def Push.Of (item : α) : Push α → Prop
  | .arriving other | .testing other | .settling other | .sleeping other | .deciding other
  | .placing other => other = item
  | .leaving _ => True

/-- What of an item is in the queue by a push with this result. -/
def PushResult.items (item : α) : PushResult → List α
  | .placed => [item]
  | _ => []

/-- What of an item is in the queue by its push. -/
def Push.placed (item : α) : Push α → List α
  | .leaving result => result.items item
  | _ => []

/-- What has been taken from the queue by a pop with this result. -/
def PopResult.taken : PopResult α → List α
  | .ok (some item) => [item]
  | _ => []

/-- What has been taken from the queue by a pop. -/
def Pop.taken : Pop α → List α
  | .leaving result => PopResult.taken result
  | _ => []

/-- A push takes nothing, and puts its item into the queue exactly when it comes to say so. -/
theorem Push.step_placed {queue : Queue ι α} {me : ι} {pick : Nat} {push : Push α} {item : α}
    {move : Move ι α (Push α) PushResult} (of : push.Of item)
    (stepped : push.step queue me pick = some move) :
    departed move.transfer = [] ∧
      ((∃ next, move.progress = .at next ∧ next.Of item ∧
          next.placed item = push.placed item ++ entered move.transfer) ∨
        ∃ result, push = .leaving result ∧ move.progress = .returned result ∧
          entered move.transfer = []) := by
  cases push with
  | arriving other =>
      rcases Option.map_eq_some_iff.mp stepped with ⟨next, locked, rfl⟩
      exact ⟨rfl, Or.inl ⟨_, rfl, of, rfl⟩⟩
  | testing other =>
      cases stepped
      refine ⟨rfl, Or.inl ⟨_, rfl, ?_, ?_⟩⟩
      · split <;> exact of
      · split <;> rfl
  | settling other =>
      cases stepped
      exact ⟨rfl, Or.inl ⟨_, rfl, of, rfl⟩⟩
  | sleeping other =>
      simp only [Push.step] at stepped
      split at stepped
      · cases stepped
      · rcases Option.map_eq_some_iff.mp stepped with ⟨next, locked, rfl⟩
        exact ⟨rfl, Or.inl ⟨_, rfl, of, rfl⟩⟩
  | deciding other =>
      cases stepped
      refine ⟨rfl, Or.inl ⟨_, rfl, ?_, ?_⟩⟩
      · split
        · trivial
        · exact of
      · split <;> rfl
  | placing other =>
      cases of
      cases stepped
      unfold place
      split
      · exact ⟨rfl, Or.inl ⟨_, rfl, trivial, rfl⟩⟩
      · split
        · exact ⟨rfl, Or.inl ⟨_, rfl, trivial, rfl⟩⟩
        · exact ⟨rfl, Or.inl ⟨_, rfl, trivial, rfl⟩⟩
  | leaving result =>
      cases stepped
      exact ⟨rfl, Or.inr ⟨result, rfl, rfl, rfl⟩⟩

/-- A pop puts nothing, and takes an item from the queue exactly when it comes to hand it over. -/
theorem Pop.step_taken {queue : Queue ι α} {me : ι} {pick : Nat} {pop : Pop α}
    {move : Move ι α (Pop α) (PopResult α)} (stepped : pop.step queue me pick = some move) :
    entered move.transfer = [] ∧
      ((∃ next, move.progress = .at next ∧
          next.taken = pop.taken ++ departed move.transfer) ∨
        ∃ result, pop = .leaving result ∧ move.progress = .returned result ∧
          departed move.transfer = []) := by
  cases pop with
  | arriving =>
      rcases Option.map_eq_some_iff.mp stepped with ⟨next, locked, rfl⟩
      exact ⟨rfl, Or.inl ⟨_, rfl, rfl⟩⟩
  | testing =>
      cases stepped
      refine ⟨rfl, Or.inl ⟨_, rfl, ?_⟩⟩
      split <;> rfl
  | settling =>
      cases stepped
      exact ⟨rfl, Or.inl ⟨_, rfl, rfl⟩⟩
  | sleeping =>
      simp only [Pop.step] at stepped
      split at stepped
      · cases stepped
      · rcases Option.map_eq_some_iff.mp stepped with ⟨next, locked, rfl⟩
        exact ⟨rfl, Or.inl ⟨_, rfl, rfl⟩⟩
  | deciding =>
      cases stepped
      refine ⟨rfl, Or.inl ⟨_, rfl, ?_⟩⟩
      split <;> rfl
  | taking =>
      cases stepped
      unfold takeOldest
      split
      · exact ⟨rfl, Or.inl ⟨_, rfl, rfl⟩⟩
      · split
        · exact ⟨rfl, Or.inl ⟨_, rfl, rfl⟩⟩
        · exact ⟨rfl, Or.inl ⟨_, rfl, rfl⟩⟩
  | leaving result =>
      cases stepped
      exact ⟨rfl, Or.inr ⟨result, rfl, rfl, rfl⟩⟩

/-- A push returns when it gives the lock back. -/
theorem Push.eq_of_returned {queue : Queue ι α} {me : ι} {pick : Nat} {push : Push α}
    {result : PushResult} {move : Move ι α (Push α) PushResult}
    (stepped : push.step queue me pick = some move) (progress : move.progress = .returned result) :
    push = .leaving result := by
  cases push <;> grind [Option.map_eq_some_iff, Push.step, place]

omit [DecidableEq ι] in
/-- A call that cancels the queue returns when it gives the lock back. -/
theorem Cancel.eq_of_returned {queue : Queue ι α} {me : ι} {call : Cancel} {first : Bool}
    {move : Move ι α Cancel Bool} (stepped : call.step queue me = some move)
    (progress : move.progress = .returned first) : call = .leaving first := by
  cases call <;> grind [Option.map_eq_some_iff, Cancel.step]

omit [DecidableEq ι] in
/-- A call that marks the end of the stream returns when it gives the lock back. -/
theorem EndStream.eq_of_returned {queue : Queue ι α} {me : ι} {call : EndStream} {first : Bool}
    {move : Move ι α EndStream Bool} (stepped : call.step queue me = some move)
    (progress : move.progress = .returned first) :
    call = .leaving first ∧ move.queue = queue.unlock := by
  cases call <;> grind [Option.map_eq_some_iff, EndStream.step]

/-- A pop returns when it gives the lock back. -/
theorem Pop.eq_of_returned {queue : Queue ι α} {me : ι} {pick : Nat} {pop : Pop α}
    {result : PopResult α} {move : Move ι α (Pop α) (PopResult α)}
    (stepped : pop.step queue me pick = some move) (progress : move.progress = .returned result) :
    pop = .leaving result ∧ move.queue = queue.unlock := by
  cases pop <;> grind [Option.map_eq_some_iff, Pop.step, takeOldest]

end LineTally.Queue
