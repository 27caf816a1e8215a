import LineTally.Proofs.Session.Order
import LineTally.Proofs.Session.Rest

/-!
# Pushes that stay parked at an ended stream

A pop wakes one parked push.  If the stream has ended by then, that push is refused and puts nothing
into the slot that was freed for it, and it wakes nobody; so another parked push stays where it is,
next to a free slot.  This is as far as it goes: each free slot next to a parked push is one that
some push came back from with the answer that the stream is closed.  The queue is made for one
producer, and where no two pushes are ever parked at the same time, a push is parked only while the
queue is full, whether or not the stream has ended.
-/

namespace LineTally.Session

open Queue

/-- Of two pushes that are parked when the stream ends, a pop brings back only one. -/
theorem stays_parked_beside_free_slot :
    let tasks : List Task := [.push "a", .push "b", .push "c", .act .endStream, .pop]
    let settled := (opening 1 tasks).settle
    system.Run (opening 1 tasks) settled.2 settled.1 ∧ settled.1.AtRest ∧
      settled.1.ParkedInPush 2 ∧ settled.1.queue.ring.isFull = false :=
  ⟨System.run_settle .., .of_isSettled (by decide +kernel), by decide +kernel, by decide +kernel⟩

/-! ## Slots that were passed up -/

/-- The push of the thread found the stream ended: it has answered so, or is about to. -/
def Client.isTurnedAway : Client → Bool
  | .pushing (.leaving (.refused .closed)) => true
  | client => client.isClosedOut

theorem Client.isTurnedAway_of_step {queue : Queue Nat String} {me pick : Nat} {client : Client}
    {step : Step} (turned : client.isTurnedAway = true)
    (stepped : client.step queue me pick = some step) : step.client.isTurnedAway = true := by
  unfold isTurnedAway at turned
  split at turned
  · cases stepped
    rfl
  · unfold isClosedOut at turned
    split at turned
    · cases stepped
    · cases turned

/-- A push that comes to put its item and finds the stream ended is turned away. -/
theorem Client.isTurnedAway_of_placing {queue : Queue Nat String} {me pick : Nat} {item : String}
    {step : Step} (ended : queue.ended = true)
    (stepped : (Client.pushing (.placing item)).step queue me pick = some step) :
    step.client.isTurnedAway = true := by
  cases stepped
  simp [place, ended, isTurnedAway]

/-- A thread with a single call that is inside a push does nothing but push. -/
theorem Staffed.eq_pushing {task : Option Task} {put taken : List String} {client : Client}
    {push : Push String} (staffed : Staffed task put taken (some client))
    (there : client.call = .push push) : client = .pushing push := by
  cases staffed with
  | present serves =>
      cases serves with
      | pushing =>
          cases there
          rfl
      | popping | pushed | popped | acted => cases there
      | @acting action inside => cases inside <;> cases there

/-- While a push is parked, each free slot has a thread on its way to it, or was passed up by a push
that found the stream ended. -/
def PassedUp (session : Session) : Prop :=
  session.queue.cancelled = false → Covered session.queue.writers
    (fun thread => (session.calls thread).SeeksRoom session.queue thread)
    (session.queue.ring.capacity - session.queue.ring.count -
      session.clients.countP Client.isTurnedAway)

theorem PassedUp.step {tasks : List Task} {before seen : List Event} {session next : Session}
    {thread pick : Nat} (passedUp : session.PassedUp) (serve : AllServe tasks before session)
    (consistent : Consistent session.queue session.calls)
    (moved : system.step thread pick session = some (next, seen)) : next.PassedUp := by
  rcases step_eq_some moved with ⟨client, step, there, stepped, rfl, rfl⟩
  intro clear
  have moves := moves there stepped
  have unflagged : session.queue.cancelled = false := by
    by_contra set
    simp [moves.advances.cancelled_mono (by simpa using set)] at clear
  have counted := countP_set_add there step.client Client.isTurnedAway
  apply consistent.writers_of_moves (passedUp unflagged) moves clear
  · by_cases turned : client.isTurnedAway = true
    · rw [if_pos turned, if_pos (Client.isTurnedAway_of_step turned stepped)] at counted
      exact (Nat.add_right_cancel counted).ge
    · rw [if_neg turned] at counted
      dsimp only
      omega
  · intro item placing ended
    have there' : client.call = .push (.placing item) := by simpa [calls, there] using placing
    have served := serve thread
    rw [there] at served
    cases served.eq_pushing there'
    have turned := Client.isTurnedAway_of_placing ended stepped
    rw [if_pos turned, if_neg (by simp [Client.isTurnedAway, Client.isClosedOut])] at counted
    dsimp only
    omega

theorem passedUp {capacity : Count} (positive : 0 < capacity.toNat) {tasks : List Task}
    (single : ∀ task ∈ tasks, task.IsCall) {events : List Event} {last : Session}
    (run : system.Run (opening capacity.toNat tasks) events last) : last.PassedUp := by
  have start : (opening capacity.toNat tasks).PassedUp := fun _ => .nil
  exact run.keeps_state start fun _ _ _ _ _ _ early passedUp moved =>
    passedUp.step (allServe single early) (accounted positive early).consistent moved

/-- In a session at rest, a push that was turned away has answered so. -/
theorem AtRest.countP_isTurnedAway {session : Session} (rest : session.AtRest) :
    session.clients.countP Client.isTurnedAway = session.clients.countP Client.isClosedOut := by
  apply List.countP_congr
  intro client member
  rcases List.getElem?_of_mem member with ⟨thread, there⟩
  have resting := rest thread client there
  cases client with
  | pushing push =>
      cases push with
      | leaving result =>
          rcases resting with idle | stuck
          · cases idle
          · cases stuck 0
      | _ => exact Iff.rfl
  | _ => exact Iff.rfl

/-! ## One parked push at a time -/

/-- No two pushes are parked. -/
def isUncrowded (session : Session) : Bool :=
  session.queue.writers.length ≤ 1

/-- At most one push is parked, and only while the queue is full. -/
structure Tight (session : Session) : Prop where
  uncrowded : session.isUncrowded = true
  full : session.queue.writers ≠ [] → session.queue.ring.isFull = true

theorem Tight.step {session next : Session} {thread pick : Nat} {seen : List Event}
    (tight : session.Tight) (consistent : Consistent session.queue session.calls)
    (moved : (system.keepingTo isUncrowded).step thread pick session = some (next, seen)) :
    next.Tight := by
  rcases System.step_of_keepingTo moved with ⟨moved, uncrowded⟩
  refine ⟨uncrowded, ?_⟩
  rcases step_eq_some moved with ⟨client, step, there, stepped, rfl, rfl⟩
  exact consistent.full_of_moves (moves there stepped) (of_decide_eq_true tight.uncrowded)
    tight.full

theorem tight {capacity : Count} (positive : 0 < capacity.toNat) {tasks : List Task}
    {events : List Event} {last : Session}
    (run : (system.keepingTo isUncrowded).Run (opening capacity.toNat tasks) events last) :
    last.Tight := by
  have start : (opening capacity.toNat tasks).Tight := ⟨rfl, fun asleep => absurd rfl asleep⟩
  exact run.keeps_state start fun _ _ _ _ _ _ early tight moved =>
    tight.step (accounted positive early.of_keepingTo).consistent moved

/-- In every state that threads with one call each can reach, without setting the flag alone, and in
which nothing is under way, a push is parked only if the queue is not cancelled; before the end of
the stream only if the queue is full; after it with no more free slots than there are pushes that
came back because the stream had ended; and if no two pushes were ever parked at the same time, as
with a single producer, again only if the queue is full. -/
theorem parked_push_beside_passed_up_slots (capacity : Count) (positive : 0 < capacity.toNat)
    (tasks : List Task) (single : ∀ task ∈ tasks, task.IsCall)
    (careful : ∀ task ∈ tasks, task.Within (· ≠ .raiseFlag)) (events : List Event)
    (last : Session) (run : system.Run (opening capacity.toNat tasks) events last)
    (rest : last.AtRest) (thread : Nat) (parked : last.ParkedInPush thread) :
    last.queue.cancelled = false ∧
      (last.queue.ended = false → last.queue.ring.isFull = true) ∧
      last.queue.ring.capacity - last.queue.ring.count ≤
        last.clients.countP Client.isClosedOut ∧
      ((system.keepingTo isUncrowded).Run (opening capacity.toNat tasks) events last →
        last.queue.ring.isFull = true) := by
  rcases watched positive careful run with ⟨consistent, attended, -⟩
  have asleep := List.ne_nil_of_mem parked.2
  have free := consistent.holder_eq_none rest.rests
  rcases attended.writer_rests consistent rest.rests asleep with ⟨clear, full⟩
  refine ⟨clear, ?_, ?_, ?_⟩
  · exact fun unended => consistent.ring.isFull_of_le (full unended)
  · rw [← rest.countP_isTurnedAway, ← Nat.sub_eq_zero_iff_le]
    exact (passedUp positive single run clear).eq_zero asleep fun other =>
      ((rest.rests other).not_seeking free).2.1
  · exact fun uncrowded => (tight positive uncrowded).full asleep

/-- Of three pushes the last stays parked next to the slot that the second passed up; where only
one is parked when the stream ends, the queue is full. -/
theorem parked_push_beside_passed_up_slots_of_ended :
    let crowd : List Task := [.push "a", .push "b", .push "c", .act .endStream, .pop]
    let crowded := (opening 1 crowd).settle
    let lone : List Task := [.push "a", .push "b", .act .endStream]
    let alone := (system.keepingTo isUncrowded).settle (fun _ => [0, 1, 2]) 32 (opening 1 lone)
    (crowded.1.ParkedInPush 2 ∧ crowded.1.queue.ended = true ∧
      crowded.1.queue.ring.capacity - crowded.1.queue.ring.count = 1 ∧
      crowded.1.queue.ring.capacity - crowded.1.queue.ring.count ≤
        crowded.1.clients.countP Client.isClosedOut) ∧
    alone.1.ParkedInPush 1 ∧ alone.1.queue.ended = true ∧
      alone.1.queue.ring.isFull = true := by
  intro crowd crowded lone alone
  have crowd_calls : ∀ task ∈ crowd, task.IsCall := by
    simp only [crowd, List.forall_mem_cons]
    exact ⟨.push _, .push _, .push _, .act _, .pop, by simp⟩
  have lone_calls : ∀ task ∈ lone, task.IsCall := by
    simp only [lone, List.forall_mem_cons]
    exact ⟨.push _, .push _, .act _, by simp⟩
  have stayed := parked_push_beside_passed_up_slots 1 (by decide) crowd crowd_calls
    (by simp [crowd, Task.Within]) crowded.2 crowded.1 (System.run_settle ..)
    (.of_isSettled (by decide +kernel)) 2 (by decide +kernel)
  have run : (system.keepingTo isUncrowded).Run (opening 1 lone) alone.2 alone.1 :=
    System.run_settle ..
  have waits := parked_push_beside_passed_up_slots 1 (by decide) lone lone_calls
    (by simp [lone, Task.Within]) alone.2 alone.1 run.of_keepingTo
    (.of_isSettled (by decide +kernel)) 1 (by decide +kernel)
  refine ⟨⟨by decide +kernel, by decide +kernel, by decide +kernel, stayed.2.2.1⟩, ?_⟩
  exact ⟨by decide +kernel, by decide +kernel, waits.2.2.2 run⟩

end LineTally.Session
