import LineTally.Proofs.Consumer
import LineTally.Proofs.Queue.Consistency
import LineTally.Proofs.Reader
import LineTally.Proofs.Threads
import LineTally.Session

/-!
# Sessions as threads in the calls of one queue

Whatever a thread of a session is there for, it is at each moment away from the queue or in one of
its calls.  So each run of a session is a run of such threads, and what holds for these holds for
sessions: the queue is consistent, and its items are those that were put and have not been taken.
-/

namespace LineTally.Session

open Queue

/-- Where a thread of a session is with regard to the queue. -/
def Client.call : Client → Call String
  | .pushing push => .push push
  | .popping pop => .pop pop
  | .reading reader => reader.call
  | .consuming _ _ consumer => consumer.call
  | .acting inside => inside.call
  | .ended _ => .away

/-- Where the threads of a session are with regard to its queue. -/
def calls (session : Session) (thread : Nat) : Call String :=
  match session.clients[thread]? with
  | some client => client.call
  | none => .away

/-- A session of threads that have not taken a step, around an empty queue. -/
def opening (capacity : Nat) (tasks : List Task) : Session :=
  { queue := .empty capacity, clients := tasks.map .start }

/-- The items that were put, each with the thread that put it, in order. -/
def puts (events : List Event) : List (Nat × String) :=
  events.filterMap fun event =>
    match event with
    | .transferred thread (.put item) => some (thread, item)
    | _ => none

/-- The items that were taken, each with the thread that took it, in order. -/
def takes (events : List Event) : List (Nat × String) :=
  events.filterMap fun event =>
    match event with
    | .transferred thread (.took item) => some (thread, item)
    | _ => none

@[simp] theorem puts_append (before after : List Event) :
    puts (before ++ after) = puts before ++ puts after :=
  List.filterMap_append

@[simp] theorem takes_append (before after : List Event) :
    takes (before ++ after) = takes before ++ takes after :=
  List.filterMap_append

@[simp] theorem puts_events (thread : Nat) (step : Step) :
    puts (step.events thread) = (entered step.transfer).map (thread, ·) := by
  have silent : puts (step.log.map .logged) = [] := by simp [puts]
  rw [Step.events, puts_append, silent, List.append_nil]
  rcases step.transfer with none | (item | item) <;> rfl

@[simp] theorem takes_events (thread : Nat) (step : Step) :
    takes (step.events thread) = (departed step.transfer).map (thread, ·) := by
  have silent : takes (step.log.map .logged) = [] := by simp [takes]
  rw [Step.events, takes_append, silent, List.append_nil]
  rcases step.transfer with none | (item | item) <;> rfl

theorem Client.start_idle (task : Task) : (Client.start task).call.Idle := by
  cases task with
  | push item => exact .push item
  | pop => exact .pop
  | produce source => exact .away
  | consume index predicate => exact .pop
  | act action => exact action.start_idle

theorem Client.advances {queue : Queue Nat String} {me pick : Nat} {client : Client}
    {step : Step} (stepped : client.step queue me pick = some step) :
    Advances me queue client.call step.transfer step.queue step.client.call := by
  cases client with
  | pushing push =>
      rcases Option.map_eq_some_iff.mp stepped with ⟨move, moved, rfl⟩
      have turn := Push.turn moved
      cases progress : move.progress <;> rw [progress] at turn <;> exact turn.advances
  | popping pop =>
      rcases Option.map_eq_some_iff.mp stepped with ⟨move, moved, rfl⟩
      have turn := Pop.turn moved
      cases progress : move.progress <;> rw [progress] at turn <;> exact turn.advances
  | reading reader =>
      rcases Option.map_eq_some_iff.mp stepped with ⟨step, moved, rfl⟩
      have advances := Reader.advances moved
      cases there : step.reader <;> rw [there] at advances <;> exact advances
  | consuming index predicate consumer =>
      rcases Option.map_eq_some_iff.mp stepped with ⟨step, moved, rfl⟩
      have advances := Consumer.advances moved
      cases there : step.consumer <;> rw [there] at advances <;> exact advances
  | acting inside =>
      rcases Option.map_eq_some_iff.mp stepped with ⟨acted, moved, rfl⟩
      have turn := Acting.turn moved
      cases progress : acted.progress <;> rw [progress] at turn <;> exact turn.advances
  | ended outcome => cases stepped

/-- A step of a session is a step of one of its threads. -/
theorem step_eq_some {session next : Session} {thread pick : Nat} {seen : List Event}
    (moved : system.step thread pick session = some (next, seen)) :
    ∃ client step, session.clients[thread]? = some client ∧
      client.step session.queue thread pick = some step ∧
      next = { queue := step.queue, clients := session.clients.set thread step.client } ∧
      seen = step.events thread := by
  rcases Option.bind_eq_some_iff.mp moved with ⟨client, there, moved⟩
  rcases Option.bind_eq_some_iff.mp moved with ⟨step, stepped, moved⟩
  cases moved
  exact ⟨client, step, there, stepped, rfl, rfl⟩

theorem moves {session : Session} {thread pick : Nat} {client : Client} {step : Step}
    (there : session.clients[thread]? = some client)
    (stepped : client.step session.queue thread pick = some step) :
    Moves thread session.queue session.calls step.transfer step.queue
      (calls { queue := step.queue, clients := session.clients.set thread step.client }) where
  advances := by
    rcases List.getElem?_eq_some_iff.mp there with ⟨inside, rfl⟩
    simpa [calls, inside] using Client.advances stepped
  others other different := by
    simp [calls, List.getElem?_set_ne different.symm]

theorem calls_opening_idle (capacity : Nat) (tasks : List Task) (thread : Nat) :
    ((opening capacity tasks).calls thread).Idle := by
  simp only [calls, opening, List.getElem?_map]
  cases tasks[thread]? with
  | none => exact .away
  | some task => exact Client.start_idle task

/-- What holds of a queue and its items along every run of a session. -/
structure Accounted (events : List Event) (session : Session) : Prop where
  consistent : Consistent session.queue session.calls
  items : (puts events).map Prod.snd =
    (takes events).map Prod.snd ++ session.queue.ring.toList

theorem Accounted.opening {capacity : Count} (positive : 0 < capacity.toNat)
    (tasks : List Task) : Accounted [] (opening capacity.toNat tasks) where
  consistent := .start positive capacity.toNat_lt (calls_opening_idle _ _)
  items := by simp [puts, takes, Session.opening, Queue.empty]

theorem Accounted.step {before seen : List Event} {session next : Session} {thread pick : Nat}
    (accounted : Accounted before session)
    (moved : system.step thread pick session = some (next, seen)) :
    Accounted (before ++ seen) next := by
  rcases step_eq_some moved with ⟨client, step, there, stepped, rfl, rfl⟩
  have moves := moves there stepped
  refine ⟨accounted.consistent.moves moves, ?_⟩
  have items := accounted.consistent.items moves
  calc (puts (before ++ step.events thread)).map Prod.snd
      = (takes before).map Prod.snd ++ (session.queue.ring.toList ++ entered step.transfer) := by
        simp [accounted.items, Function.comp_def]
    _ = (takes (before ++ step.events thread)).map Prod.snd ++ step.queue.ring.toList := by
        rw [items]
        simp [Function.comp_def]

theorem accounted {capacity : Count} (positive : 0 < capacity.toNat) {tasks : List Task}
    {events : List Event} {last : Session}
    (run : system.Run (opening capacity.toNat tasks) events last) : Accounted events last :=
  run.keeps (.opening positive tasks) fun _ _ _ _ _ _ accounted moved => accounted.step moved

end LineTally.Session
