import LineTally.Proofs.Queue.Release
import LineTally.Proofs.Session.Order
import LineTally.Proofs.Session.Rest

/-!
# Sessions after a cancellation

Once a call that cancels the queue has returned, the queue stays as it is.  Nobody is parked or will
be, a push that was under way or comes later is refused, a pop finds nothing, and every call returns
after a few steps.  It does not matter whether that call set the flag or found it set, and whether
the stream had ended.
-/

namespace LineTally.Session

open Queue

/-- The thread performs this action, or has. -/
def Client.Performs (action : Action) : Client → Prop
  | .acting inside => inside.action = action
  | .ended (.acted _) => True
  | _ => False

theorem Client.Performs.step {action : Action} {queue : Queue Nat String} {me pick : Nat}
    {client : Client} {step : Step} (performs : client.Performs action)
    (stepped : client.step queue me pick = some step) : step.client.Performs action := by
  cases client with
  | acting inside =>
      rcases Option.map_eq_some_iff.mp stepped with ⟨acted, moved, rfl⟩
      cases progress : acted.progress with
      | «at» next =>
          change next.action = action
          rw [Acting.action_eq_of_step moved progress]
          exact performs
      | returned first => trivial
  | pushing | popping | reading | consuming => cases performs
  | ended => cases stepped

/-- A thread that cancels the queue is in the last step of its call when it comes to an end. -/
theorem Client.Performs.leaving {action : Action} (cancels : action = .cancel ∨ action = .shutdown)
    {queue : Queue Nat String} {me pick : Nat} {client : Client} {step : Step} {outcome : Outcome}
    (performs : client.Performs action) (stepped : client.step queue me pick = some step)
    (atEnd : step.client = .ended outcome) :
    ∃ first, client.call = .cancel (.leaving first) := by
  cases client with
  | acting inside =>
      rcases Option.map_eq_some_iff.mp stepped with ⟨acted, moved, rfl⟩
      cases inside with
      | cancelling call | shuttingDown call =>
          rcases Option.map_eq_some_iff.mp moved with ⟨move, inner, rfl⟩
          cases progress : move.progress with
          | «at» next => simp [progress] at atEnd
          | returned first =>
              rw [Cancel.eq_of_returned inner progress]
              exact ⟨first, rfl⟩
      | ending | raisingFlag => rcases cancels with rfl | rfl <;> cases performs
  | pushing | popping | reading | consuming => cases performs
  | ended => cases stepped

/-- What holds of a session in which some threads cancel the queue: when one of them has returned,
everybody has been released. -/
structure Freed (tasks : List Task) (session : Session) : Prop where
  number : session.clients.length = tasks.length
  consistent : Consistent session.queue session.calls
  cleared : Cleared session.queue session.calls
  performs : ∀ (thread : Nat) (action : Action) (client : Client),
    tasks[thread]? = some (.act action) → session.clients[thread]? = some client →
    client.Performs action
  released : ∀ (thread : Nat) (action : Action) (first : Bool),
    action = .cancel ∨ action = .shutdown → tasks[thread]? = some (.act action) →
    session.clients[thread]? = some (.ended (.acted first)) →
    Released session.queue session.calls

theorem Freed.opening {capacity : Count} (positive : 0 < capacity.toNat) (tasks : List Task) :
    Freed tasks (opening capacity.toNat tasks) where
  number := List.length_map _
  consistent := (Accounted.opening positive tasks).consistent
  cleared := .start (calls_opening_idle _ _) _
  performs thread action client given there := by
    simp only [Session.opening, List.getElem?_map, given, Option.map_some,
      Option.some.injEq] at there
    subst there
    exact action.action_start
  released thread action first _ given there := by
    simp [Session.opening, given, Client.start] at there

theorem Freed.step {tasks : List Task} {session next : Session} {thread pick : Nat}
    {seen : List Event} (freed : Freed tasks session)
    (moved : system.step thread pick session = some (next, seen)) : Freed tasks next := by
  rcases step_eq_some moved with ⟨client, step, there, stepped, rfl, rfl⟩
  have moves := moves there stepped
  refine ⟨(List.length_set ..).trans freed.number, freed.consistent.moves moves,
    freed.cleared.moves freed.consistent moves, ?_, ?_⟩
  · intro other action client' given found
    rcases eq_or_getElem?_of_set found with ⟨rfl, rfl⟩ | ⟨-, found⟩
    · exact (freed.performs other action client given there).step stepped
    · exact freed.performs other action client' given found
  · intro other action first cancels given found
    rcases eq_or_getElem?_of_set found with ⟨rfl, returned⟩ | ⟨-, found⟩
    · rcases (freed.performs other action client given there).leaving cancels stepped
        returned.symm with ⟨first', leaving⟩
      have away : (calls ⟨step.queue, session.clients.set other step.client⟩) other = .away := by
        simp [calls, found, Client.call]
      apply Released.of_return freed.cleared freed.consistent moves
      · simpa [calls, there] using leaving
      · simp [away]
    · exact ((freed.released other action first cancels given found).moves moves).1

theorem freed {capacity : Count} (positive : 0 < capacity.toNat) {tasks : List Task}
    {events : List Event} {last : Session}
    (run : system.Run (opening capacity.toNat tasks) events last) : Freed tasks last :=
  run.keeps_state (.opening positive tasks) fun _ _ _ _ _ _ _ freed moved => freed.step moved

/-! ## The calls that are left -/

/-- What a session has come to in a run from one in which everybody has been released. -/
structure Frozen (middle : Session) (later : List Event) (last : Session) : Prop where
  released : Released last.queue last.calls
  ring : last.queue.ring = middle.queue.ring
  puts : puts later = []
  takes : takes later = []
  pushes : ∀ (thread : Nat) (push : Push String),
    middle.clients[thread]? = some (.pushing push) →
    (∃ further, last.clients[thread]? = some (.pushing further)) ∨
      last.clients[thread]? = some (.ended (.pushed (.refused .cancelled)))
  pops : ∀ (thread : Nat) (pop : Pop String), middle.clients[thread]? = some (.popping pop) →
    (∃ further, last.clients[thread]? = some (.popping further)) ∨
      last.clients[thread]? = some (.ended (.popped (.ok none)))

theorem Client.pushing_step {queue : Queue Nat String} {me pick : Nat} {push : Push String}
    {step : Step} (heeds : (Call.push push).Heeds)
    (stepped : (Client.pushing push).step queue me pick = some step) :
    (∃ further, step.client = .pushing further) ∨
      step.client = .ended (.pushed (.refused .cancelled)) := by
  rcases Option.map_eq_some_iff.mp stepped with ⟨move, moved, rfl⟩
  cases progress : move.progress with
  | «at» further => exact Or.inl ⟨further, rfl⟩
  | returned result =>
      right
      cases Push.eq_of_returned moved progress
      have refused : result = .refused .cancelled := heeds
      rw [refused]

theorem Client.popping_step {queue : Queue Nat String} {me pick : Nat} {pop : Pop String}
    {step : Step} (heeds : (Call.pop pop).Heeds)
    (stepped : (Client.popping pop).step queue me pick = some step) :
    (∃ further, step.client = .popping further) ∨
      step.client = .ended (.popped (.ok none)) := by
  rcases Option.map_eq_some_iff.mp stepped with ⟨move, moved, rfl⟩
  cases progress : move.progress with
  | «at» further => exact Or.inl ⟨further, rfl⟩
  | returned result =>
      right
      cases (Pop.eq_of_returned moved progress).1
      have nothing : result = .ok none := heeds
      rw [nothing]

theorem Frozen.step {middle session next : Session} {later seen : List Event} {thread pick : Nat}
    (frozen : Frozen middle later session)
    (moved : system.step thread pick session = some (next, seen)) :
    Frozen middle (later ++ seen) next := by
  rcases step_eq_some moved with ⟨client, step, there, stepped, rfl, rfl⟩
  rcases frozen.released.moves (moves there stepped) with ⟨released, ring, nothing⟩
  rcases List.getElem?_eq_some_iff.mp there with ⟨inside, -⟩
  have heeds : client.call.Heeds := by
    simpa [calls, there] using frozen.released.heeds thread
  refine ⟨released, ring.trans frozen.ring, ?_, ?_, ?_, ?_⟩
  · simp [frozen.puts, nothing, entered]
  · simp [frozen.takes, nothing, departed]
  · intro other push given
    have before := frozen.pushes other push given
    by_cases same : other = thread
    · subst same
      simp only [List.getElem?_set_self inside, Option.some.injEq]
      rw [there] at before
      rcases before with ⟨further, pushing⟩ | refused
      · cases pushing
        exact Client.pushing_step heeds stepped
      · cases refused
        cases stepped
    · simpa only [List.getElem?_set_ne (Ne.symm same)] using before
  · intro other pop given
    have before := frozen.pops other pop given
    by_cases same : other = thread
    · subst same
      simp only [List.getElem?_set_self inside, Option.some.injEq]
      rw [there] at before
      rcases before with ⟨further, popping⟩ | nothing
      · cases popping
        exact Client.popping_step heeds stepped
      · cases nothing
        cases stepped
    · simpa only [List.getElem?_set_ne (Ne.symm same)] using before

theorem frozen {middle last : Session} {later : List Event}
    (released : Released middle.queue middle.calls) (run : system.Run middle later last) :
    Frozen middle later last := by
  have start : Frozen middle [] middle :=
    ⟨released, rfl, rfl, rfl, fun _ push there => Or.inl ⟨push, there⟩,
      fun _ pop there => Or.inl ⟨pop, there⟩⟩
  exact run.keeps start fun _ _ _ _ _ _ frozen moved => frozen.step moved

/-- A step of a thread with one call is a turn in this call, and not one that leaves it where it
is. -/
theorem Staffed.turn {task : Option Task} {put taken : List String} {client : Client}
    {queue : Queue Nat String} {me pick : Nat} {step : Step}
    (staffed : Staffed task put taken (some client))
    (stepped : client.step queue me pick = some step) :
    Turn me queue client.call step.transfer step.queue step.client.call ∧
      step.client.call ≠ client.call := by
  rcases staffed with - | serves
  cases serves with
  | pushing =>
      rcases Option.map_eq_some_iff.mp stepped with ⟨move, moved, rfl⟩
      have turn := Push.turn moved
      have onwards := Push.moves_on moved
      cases progress : move.progress <;> rw [progress] at turn onwards <;> exact ⟨turn, onwards⟩
  | popping =>
      rcases Option.map_eq_some_iff.mp stepped with ⟨move, moved, rfl⟩
      have turn := Pop.turn moved
      have onwards := Pop.moves_on moved
      cases progress : move.progress <;> rw [progress] at turn onwards <;> exact ⟨turn, onwards⟩
  | acting =>
      rcases Option.map_eq_some_iff.mp stepped with ⟨acted, moved, rfl⟩
      have turn := Acting.turn moved
      have onwards := Acting.moves_on moved
      cases progress : acted.progress <;> rw [progress] at turn onwards <;>
        exact ⟨turn, onwards⟩
  | pushed | popped | acted => cases stepped

/-- The steps that the calls of a session take at most once everybody has been released. -/
def remaining (session : Session) : Nat :=
  total (fun _ client => client.call.remaining) session.clients

theorem remaining_le (session : Session) : session.remaining ≤ 4 * session.clients.length :=
  total_le_mul fun _ client _ => client.call.remaining_le

theorem remaining_lt {tasks : List Task} {before seen : List Event} {session next : Session}
    {thread pick : Nat} (serve : AllServe tasks before session)
    (released : Released session.queue session.calls)
    (moved : system.step thread pick session = some (next, seen)) :
    next.remaining < session.remaining := by
  rcases step_eq_some moved with ⟨client, step, there, stepped, rfl, rfl⟩
  have served := serve thread
  rw [there] at served
  rcases served.turn stepped with ⟨turn, onwards⟩
  have heeds : client.call.Heeds := by
    simpa [calls, there] using released.heeds thread
  have shorter := turn.remaining_lt onwards released.cancelled heeds
  have same : ∀ (_ : Nat) (client : Client), client.call.remaining ≤ client.call.remaining + 0 :=
    fun _ _ => le_rfl
  have replaced := total_set_le there step.client same
  simp only [remaining]
  omega

/-- If no thread has a step although everybody has been released, all calls have returned. -/
theorem Staffed.over_of_stuck {task : Option Task} {put taken : List String} {client : Client}
    {queue : Queue Nat String} {me pick : Nat} (staffed : Staffed task put taken (some client))
    (free : queue.holder = none) (writers : queue.writers = []) (readers : queue.readers = [])
    (stuck : client.step queue me pick = none) : client.outcome?.isSome = true := by
  have awake (waits : client.call.Waits queue me) : False := by
    rcases waits.asleep free with ⟨-, asleep⟩ | ⟨-, asleep⟩
    · simp [writers] at asleep
    · simp [readers] at asleep
  rcases staffed with - | serves
  cases serves with
  | pushing => exact (awake (Push.waits (Option.map_eq_none_iff.mp stuck))).elim
  | popping => exact (awake (Pop.waits (Option.map_eq_none_iff.mp stuck))).elim
  | acting => exact (awake (Acting.waits (Option.map_eq_none_iff.mp stuck))).elim
  | pushed | popped | acted => rfl

theorem over_of_stuck {tasks : List Task} {events : List Event} {session : Session}
    (serve : AllServe tasks events session)
    (consistent : Consistent session.queue session.calls)
    (released : Released session.queue session.calls) (stuck : system.Stuck session) :
    ∀ client ∈ session.clients, client.outcome?.isSome = true := by
  have free := consistent.holder_eq_none (AtRest.of_stuck stuck).rests
  intro client member
  rcases List.getElem?_of_mem member with ⟨thread, there⟩
  have served := serve thread
  rw [there] at served
  exact served.over_of_stuck free released.writers released.readers
    (step_eq_none_of_stuck stuck there 0)

/-- In every state that threads with one call each can reach, and in which one of them has returned
from cancelling the queue, whether or not it was the first to set the flag, everything that follows
is this.  Nothing enters or leaves the queue, and its ring stays as it is.  Nobody is parked.  A
push that was under way or comes later is under way or was refused because of the cancellation, and
a pop is under way or found nothing.  There are at most four steps for each thread, and where no
thread has a step, all have returned. -/
theorem cancelled_queue_stays (capacity : Count) (positive : 0 < capacity.toNat)
    (tasks : List Task) (single : ∀ task ∈ tasks, task.IsCall) (before : List Event)
    (middle : Session) (early : system.Run (opening capacity.toNat tasks) before middle)
    (canceller : Nat) (action : Action) (cancels : action = .cancel ∨ action = .shutdown)
    (given : tasks[canceller]? = some (.act action)) (first : Bool)
    (returned : middle.clients[canceller]? = some (.ended (.acted first)))
    (later : List Event) (last : Session) (late : system.Run middle later last) :
    last.queue.ring = middle.queue.ring ∧ puts later = [] ∧ takes later = [] ∧
      (∀ thread, ¬ last.ParkedInPush thread ∧ ¬ last.ParkedInPop thread) ∧
      (∀ (thread : Nat) (push : Push String), middle.clients[thread]? = some (.pushing push) →
        (∃ further, last.clients[thread]? = some (.pushing further)) ∨
          last.clients[thread]? = some (.ended (.pushed (.refused .cancelled)))) ∧
      (∀ (thread : Nat) (pop : Pop String), middle.clients[thread]? = some (.popping pop) →
        (∃ further, last.clients[thread]? = some (.popping further)) ∨
          last.clients[thread]? = some (.ended (.popped (.ok none)))) ∧
      (∀ number, system.Steps middle number last → number ≤ 4 * tasks.length) ∧
      (system.Stuck last → ∀ client ∈ last.clients, client.outcome?.isSome = true) := by
  have reached := freed positive early
  have released := reached.released canceller action first cancels given returned
  have kept := frozen released late
  have run := early.trans late
  refine ⟨kept.ring, kept.puts, kept.takes, ?_, kept.pushes, kept.pops, ?_, ?_⟩
  · intro thread
    exact ⟨fun parked => by simpa [kept.released.writers] using parked.2,
      fun parked => by simpa [kept.released.readers] using parked.2⟩
  · intro number steps
    have lighter : number + last.remaining ≤ middle.remaining :=
      steps.length_le fun _ _ _ _ _ _ run moved =>
        remaining_lt (allServe single (early.trans run)) (frozen released run).released moved
    have few := middle.remaining_le
    rw [reached.number] at few
    omega
  · exact over_of_stuck (allServe single run) (freed positive run).consistent kept.released

/-- What the action of a thread has answered, if it has. -/
def Client.answer? : Client → Option Bool
  | .ended (.acted first) => some first
  | _ => none

theorem Client.eq_of_answer? {client : Client} {first : Bool}
    (answered : client.answer? = some first) : client = .ended (.acted first) := by
  unfold answer? at answered
  split at answered
  · cases answered
    rfl
  · cases answered

/-- A call finds the flag set, and wakes a push that slept through that; a push and a pop that come
later find the queue cancelled. -/
theorem cancelled_queue_stays_of_raised :
    let tasks : List Task :=
      [.push "a", .push "b", .act .raiseFlag, .act .cancel, .pop, .push "c"]
    let middle := system.settle (fun _ => [0, 1, 2, 3]) 13 (opening 1 tasks)
    let last := system.settle (fun _ => [0, 1, 2, 3, 4, 5]) 32 middle.1
    middle.1.clients[3]? = some (.ended (.acted false)) ∧ middle.1.sleepsInPush 1 = true ∧
      last.1.queue.ring = middle.1.queue.ring ∧ takes last.2 = [] ∧
      ∀ client ∈ last.1.clients, client.outcome?.isSome = true := by
  intro tasks middle last
  have single : ∀ task ∈ tasks, task.IsCall := by
    simp only [tasks, List.forall_mem_cons]
    exact ⟨.push _, .push _, .act _, .act _, .pop, .push _, by simp⟩
  have answered : middle.1.clients[3]?.bind Client.answer? = some false := by decide +kernel
  have returned : middle.1.clients[3]? = some (.ended (.acted false)) := by
    rcases Option.bind_eq_some_iff.mp answered with ⟨client, there, answer⟩
    rw [there, Client.eq_of_answer? answer]
  have stays := cancelled_queue_stays 1 (by decide) tasks single middle.2 middle.1
    (System.run_settle ..) 3 .cancel (Or.inl rfl) rfl false returned last.2 last.1
    (System.run_settle ..)
  exact ⟨returned, by decide +kernel, stays.1, stays.2.2.1, by decide +kernel⟩

end LineTally.Session
