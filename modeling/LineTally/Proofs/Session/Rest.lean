import LineTally.Proofs.Restraint
import LineTally.Proofs.Session.Calls

/-!
# Who is parked when nothing is under way

A session is at rest when every thread has finished, has not taken a step in its next call, or is
parked: nobody has been woken and not gone on, and no call is halfway through.  If the flag is set
only by calls that go on to wake everybody, a pop is parked in a session at rest only because there
is nothing to take and more may come, and before the end of the stream a push is parked only because
there is no room.
-/

namespace LineTally

open Queue

/-- All that a thread with this task may do to the queue besides pushing and popping is allowed. -/
def Task.Within (allowed : Action → Prop) : Task → Prop
  | .push _ | .pop => True
  | .produce source => ∀ action, Entry.act action ∈ source → allowed action
  | .consume _ predicate => ∀ line, ∀ action ∈ (predicate line).actions, allowed action
  | .act action => allowed action

namespace Session

/-- All that a thread may still do to the queue besides pushing and popping is allowed. -/
def Client.Within (allowed : Action → Prop) : Client → Prop
  | .reading reader => reader.Within allowed
  | .consuming _ predicate consumer =>
      (∀ line, ∀ action ∈ (predicate line).actions, allowed action) ∧ consumer.Within allowed
  | .acting inside => allowed inside.action
  | .pushing _ | .popping _ | .ended _ => True

/-- All that the threads of a session may still do to its queue is allowed. -/
def Within (allowed : Action → Prop) (session : Session) : Prop :=
  ∀ (thread : Nat) (client : Client), session.clients[thread]? = some client →
    client.Within allowed

theorem Client.Within.start {allowed : Action → Prop} {task : Task}
    (within : task.Within allowed) : (Client.start task).Within allowed := by
  cases task with
  | push | pop => trivial
  | produce source => exact within
  | consume index predicate => exact ⟨within, trivial⟩
  | act action =>
      change allowed action.start.action
      rw [action.action_start]
      exact within

theorem Client.Within.step {allowed : Action → Prop} {queue : Queue Nat String} {me pick : Nat}
    {client : Client} {step : Step} (within : client.Within allowed)
    (stepped : client.step queue me pick = some step) : step.client.Within allowed := by
  cases client with
  | pushing push =>
      rcases Option.map_eq_some_iff.mp stepped with ⟨move, moved, rfl⟩
      cases progress : move.progress <;> trivial
  | popping pop =>
      rcases Option.map_eq_some_iff.mp stepped with ⟨move, moved, rfl⟩
      cases progress : move.progress <;> trivial
  | reading reader =>
      rcases Option.map_eq_some_iff.mp stepped with ⟨step, moved, rfl⟩
      have kept := Reader.Within.step within moved
      cases there : step.reader <;> rw [there] at kept <;> exact kept
  | consuming index predicate consumer =>
      rcases Option.map_eq_some_iff.mp stepped with ⟨step, moved, rfl⟩
      have kept := Consumer.Within.step within.1 within.2 moved
      cases there : step.consumer <;> rw [there] at kept <;>
        first | exact ⟨within.1, kept⟩ | trivial
  | acting inside =>
      rcases Option.map_eq_some_iff.mp stepped with ⟨acted, moved, rfl⟩
      cases progress : acted.progress with
      | «at» next =>
          change allowed next.action
          rw [Acting.action_eq_of_step moved progress]
          exact within
      | returned first => trivial
  | ended outcome => cases stepped

theorem Within.opening {allowed : Action → Prop} {tasks : List Task}
    (within : ∀ task ∈ tasks, task.Within allowed) (capacity : Nat) :
    (opening capacity tasks).Within allowed := by
  intro thread client there
  rcases List.getElem?_map .. ▸ there with found
  rcases Option.map_eq_some_iff.mp found with ⟨task, given, rfl⟩
  exact .start (within task (List.mem_of_getElem? given))

theorem Within.step {allowed : Action → Prop} {session next : Session} {thread pick : Nat}
    {seen : List Event} (within : session.Within allowed)
    (moved : system.step thread pick session = some (next, seen)) : next.Within allowed := by
  rcases step_eq_some moved with ⟨client, step, there, stepped, rfl, rfl⟩
  apply forall_of_set
  · exact (within thread client there).step stepped
  · exact fun other client _ => within other client

/-- A thread that never sets the flag alone is not about to. -/
theorem Client.Within.careful {client : Client} (within : client.Within (· ≠ .raiseFlag)) :
    client.call ≠ .raiseFlag := by
  have careful (inside : Acting) (not : inside.action ≠ .raiseFlag) :
      (inside.call : Call String) ≠ .raiseFlag := by
    cases inside with
    | raisingFlag => exact absurd rfl not
    | cancelling | shuttingDown | ending => simp [Acting.call]
  cases client with
  | reading reader =>
      cases reader with
      | acting rest reading inside => exact careful inside within.2
      | checking | asking | pushing | ending | finished => simp [Client.call, Reader.call]
  | consuming index predicate consumer =>
      cases consumer with
      | acting counts line actions inside => exact careful inside within.2.2
      | popping | testing | finished => simp [Client.call, Consumer.call]
  | acting inside => exact careful inside within
  | pushing | popping | ended => simp [Client.call]

/-- Nobody sleeps through what should have woken somebody, and nobody sets the flag alone. -/
structure Watched (session : Session) : Prop where
  consistent : Consistent session.queue session.calls
  attended : Attended session.queue session.calls
  within : session.Within (· ≠ .raiseFlag)

theorem Watched.step {session next : Session} {thread pick : Nat} {seen : List Event}
    (watched : session.Watched)
    (moved : system.step thread pick session = some (next, seen)) : next.Watched := by
  have within := watched.within.step moved
  rcases step_eq_some moved with ⟨client, step, there, stepped, rfl, rfl⟩
  have moves := moves there stepped
  have careful : session.calls thread ≠ .raiseFlag := by
    simpa [calls, there] using (watched.within thread client there).careful
  exact ⟨watched.consistent.moves moves, watched.attended.moves watched.consistent moves careful,
    within⟩

theorem watched {capacity : Count} (positive : 0 < capacity.toNat) {tasks : List Task}
    (careful : ∀ task ∈ tasks, task.Within (· ≠ .raiseFlag)) {events : List Event}
    {last : Session} (run : system.Run (opening capacity.toNat tasks) events last) :
    last.Watched := by
  have start : (opening capacity.toNat tasks).Watched :=
    ⟨(Accounted.opening positive tasks).consistent, .start .., .opening careful _⟩
  exact run.keeps_state start fun _ _ _ _ _ _ _ watched moved => watched.step moved

/-! ## Sessions at rest -/

/-- No call is halfway through and nobody has been woken: each thread has finished, or has not
taken a step in its next call, or has no step to take. -/
def AtRest (session : Session) : Prop :=
  ∀ (thread : Nat) (client : Client), session.clients[thread]? = some client →
    client.call.Idle ∨ ∀ pick, client.step session.queue thread pick = none

/-- The thread is asleep in a push, or was woken there and has not taken the lock again. -/
def sleepsInPush (session : Session) (thread : Nat) : Bool :=
  match session.calls thread with
  | .push (.sleeping _) => true
  | _ => false

/-- The thread is asleep in a pop, or was woken there and has not taken the lock again. -/
def sleepsInPop (session : Session) (thread : Nat) : Bool :=
  match session.calls thread with
  | .pop .sleeping => true
  | _ => false

/-- The thread is parked in a push: it sleeps there until there is room, and has not been woken. -/
def ParkedInPush (session : Session) (thread : Nat) : Prop :=
  session.sleepsInPush thread ∧ thread ∈ session.queue.writers
  deriving Decidable

/-- The thread is parked in a pop: it sleeps there until there is something to take, and has not
been woken. -/
def ParkedInPop (session : Session) (thread : Nat) : Prop :=
  session.sleepsInPop thread ∧ thread ∈ session.queue.readers
  deriving Decidable

theorem Client.rests {queue : Queue Nat String} {me pick : Nat} {client : Client}
    (stuck : client.step queue me pick = none) : client.call.Rests queue me := by
  cases client with
  | pushing push => exact Or.inr (Push.waits (Option.map_eq_none_iff.mp stuck))
  | popping pop => exact Or.inr (Pop.waits (Option.map_eq_none_iff.mp stuck))
  | reading reader =>
      rcases Reader.waits (Option.map_eq_none_iff.mp stuck) with waits | ⟨result, rfl⟩
      · exact Or.inr waits
      · exact Or.inl .away
  | consuming index predicate consumer =>
      rcases Consumer.waits (Option.map_eq_none_iff.mp stuck) with waits | ⟨tally, rfl⟩
      · exact Or.inr waits
      · exact Or.inl .away
  | acting inside => exact Or.inr (Acting.waits (Option.map_eq_none_iff.mp stuck))
  | ended outcome => exact Or.inl .away

theorem AtRest.rests {session : Session} (rest : session.AtRest) (thread : Nat) :
    (session.calls thread).Rests session.queue thread := by
  unfold calls
  cases there : session.clients[thread]? with
  | none => exact Or.inl .away
  | some client =>
      rcases rest thread client there with idle | stuck
      · exact Or.inl idle
      · exact Client.rests (stuck 0)

theorem step_eq_none_of_stuck {session : Session} (stuck : system.Stuck session) {thread : Nat}
    {client : Client} (there : session.clients[thread]? = some client) (pick : Nat) :
    client.step session.queue thread pick = none := by
  have nothing := stuck thread pick
  cases stepped : client.step session.queue thread pick with
  | none => rfl
  | some step => simp [system, there, stepped] at nothing

/-- A session in which no thread has a step is at rest. -/
theorem AtRest.of_stuck {session : Session} (stuck : system.Stuck session) : session.AtRest :=
  fun _ _ there => Or.inr (step_eq_none_of_stuck stuck there)

/-- The thread has finished or is parked. -/
def Client.isSettled (queue : Queue Nat String) (thread : Nat) : Client → Bool
  | .pushing (.sleeping _) => thread ∈ queue.writers
  | .popping .sleeping => thread ∈ queue.readers
  | .ended _ => true
  | _ => false

/-- A session of threads that have finished or are parked is at rest. -/
theorem AtRest.of_isSettled {session : Session}
    (settled : session.clients.zipIdx.all fun (client, thread) =>
      client.isSettled session.queue thread) : session.AtRest := by
  intro thread client there
  right
  intro pick
  have own : client.isSettled session.queue thread = true :=
    List.all_eq_true.mp settled (client, thread) (List.mem_zipIdx_iff_getElem?.mpr there)
  unfold Client.isSettled at own
  split at own
  · have asleep : thread ∈ session.queue.writers := of_decide_eq_true own
    simp [Client.step, Push.step, asleep]
  · have asleep : thread ∈ session.queue.readers := of_decide_eq_true own
    simp [Client.step, Pop.step, asleep]
  · rfl
  · cases own

/-- In every state that a session can reach and in which nothing is under way, a pop is parked only
if the queue is empty, the stream has not ended and the queue is not cancelled; and as long as the
stream has not ended, a push is parked only if the queue is full and not cancelled, so that a push
and a pop are not parked together.  The threads may push, pop, mark the end of the stream and cancel
the queue, once or as often as a reader or a consumer does; only setting the flag and waking nobody
is left out. -/
theorem parked_only_with_cause (capacity : Count) (positive : 0 < capacity.toNat)
    (tasks : List Task) (careful : ∀ task ∈ tasks, task.Within (· ≠ .raiseFlag))
    (events : List Event) (last : Session)
    (run : system.Run (opening capacity.toNat tasks) events last) (rest : last.AtRest) :
    (∀ thread, last.ParkedInPop thread →
      last.queue.ring.count = 0 ∧ last.queue.ended = false ∧ last.queue.cancelled = false) ∧
    (∀ thread, last.ParkedInPush thread → last.queue.ended = false →
      last.queue.ring.isFull = true ∧ last.queue.cancelled = false) ∧
    (last.queue.ended = false →
      ∀ pusher popper, last.ParkedInPush pusher → ¬ last.ParkedInPop popper) := by
  rcases watched positive careful run with ⟨consistent, attended, -⟩
  have popping (thread : Nat) (parked : last.ParkedInPop thread) :
      last.queue.ring.count = 0 ∧ last.queue.ended = false ∧ last.queue.cancelled = false := by
    rcases attended.reader_rests consistent rest.rests (List.ne_nil_of_mem parked.2) with
      ⟨clear, unended, empty⟩
    exact ⟨empty, unended, clear⟩
  have pushing (thread : Nat) (parked : last.ParkedInPush thread)
      (unended : last.queue.ended = false) :
      last.queue.ring.isFull = true ∧ last.queue.cancelled = false := by
    rcases attended.writer_rests consistent rest.rests (List.ne_nil_of_mem parked.2) with
      ⟨clear, full⟩
    exact ⟨consistent.ring.isFull_of_le (full unended), clear⟩
  refine ⟨popping, pushing, ?_⟩
  intro unended pusher popper push pop
  have empty := (popping popper pop).1
  have full := (pushing pusher push unended).1
  rw [consistent.ring.isFull_iff, ← consistent.ring.count_eq, empty] at full
  exact absurd consistent.ring.capacity_pos (by simp [← full])

/-- A pop that comes first is woken by a push; of the two pushes that come later, the second finds
no room. -/
theorem parked_only_with_cause_of_third_push :
    let settled := (opening 1 [.pop, .push "a", .push "b", .push "c"]).settle
    takes settled.2 = [(0, "a")] ∧ settled.1.AtRest ∧ settled.1.ParkedInPush 3 ∧
      settled.1.queue.ring.isFull = true ∧ settled.1.queue.cancelled = false := by
  intro settled
  have rest : settled.1.AtRest := .of_isSettled (by decide +kernel)
  have parked : settled.1.ParkedInPush 3 := by decide +kernel
  have cause := parked_only_with_cause 1 (by decide) [.pop, .push "a", .push "b", .push "c"]
    (by simp [Task.Within]) settled.2 settled.1 (System.run_settle ..) rest
  exact ⟨by decide +kernel, rest, parked, cause.2.1 3 parked (by decide +kernel)⟩

end Session

end LineTally
