import LineTally.Proofs.Session.Calls

/-!
# First in, first out

In a session of threads that each make one call, the items that pushes have put, in that order, are
the items that pops have taken, in that order, followed by what is in the ring.  An item enters by
its own push only, and only if that push answers that it was placed.
-/

namespace LineTally

/-- To make a single call, or to set the flag. -/
inductive Task.IsCall : Task → Prop where
  | push (item : String) : IsCall (.push item)
  | pop : IsCall .pop
  | act (action : Queue.Action) : IsCall (.act action)

namespace Session

open Queue

/-- The push of a thread has put its item: it has answered so, or is about to. -/
def HasPlaced (session : Session) (thread : Nat) : Prop :=
  session.clients[thread]? = some (.ended (.pushed .placed)) ∨
    session.clients[thread]? = some (.pushing (.leaving .placed))

/-- The pop of a thread has taken this item: it has answered so, or is about to. -/
def HasTaken (session : Session) (thread : Nat) (item : String) : Prop :=
  session.clients[thread]? = some (.ended (.popped (.ok (some item)))) ∨
    session.clients[thread]? = some (.popping (.leaving (.ok (some item))))

/-- What a thread with a task has put and taken, and where it is then. -/
inductive Serves : Task → List String → List String → Client → Prop where
  | pushing {item : String} {push : Push String} (of : push.Of item) :
      Serves (.push item) (push.placed item) [] (.pushing push)
  | pushed {item : String} {result : PushResult} :
      Serves (.push item) (result.items item) [] (.ended (.pushed result))
  | popping {pop : Pop String} : Serves .pop [] pop.taken (.popping pop)
  | popped {result : PopResult String} :
      Serves .pop [] (PopResult.taken result) (.ended (.popped result))
  | acting {action : Action} {inside : Acting} : Serves (.act action) [] [] (.acting inside)
  | acted {action : Action} {first : Bool} :
      Serves (.act action) [] [] (.ended (.acted first))

theorem Serves.start {task : Task} (single : task.IsCall) : Serves task [] [] (.start task) := by
  cases single with
  | push item => exact @Serves.pushing item (.arriving item) rfl
  | pop => exact @Serves.popping .arriving
  | act action => exact .acting

theorem Serves.step {task : Task} {put taken : List String} {client : Client}
    {queue : Queue Nat String} {me pick : Nat} {step : Step}
    (serves : Serves task put taken client)
    (stepped : client.step queue me pick = some step) :
    Serves task (put ++ entered step.transfer) (taken ++ departed step.transfer)
      step.client := by
  cases serves with
  | pushing of =>
      rcases Option.map_eq_some_iff.mp stepped with ⟨move, moved, rfl⟩
      rcases Push.step_placed of moved with
        ⟨nothing, ⟨next, progress, of, more⟩ | ⟨result, rfl, progress, none⟩⟩
      · simp only [nothing, progress, ← more, List.append_nil]
        exact .pushing of
      · simp only [nothing, progress, none, List.append_nil]
        exact .pushed
  | popping =>
      rcases Option.map_eq_some_iff.mp stepped with ⟨move, moved, rfl⟩
      rcases Pop.step_taken moved with
        ⟨nothing, ⟨next, progress, more⟩ | ⟨result, rfl, progress, none⟩⟩
      · simp only [nothing, progress, ← more, List.append_nil]
        exact .popping
      · simp only [nothing, progress, none, List.append_nil]
        exact .popped
  | acting =>
      rcases Option.map_eq_some_iff.mp stepped with ⟨acted, moved, rfl⟩
      cases progress : acted.progress with
      | «at» inside => exact .acting
      | returned first => exact .acted
  | pushed | popped | acted => cases stepped

/-- The thread at some place serves the task at that place, or there is neither. -/
inductive Staffed : Option Task → List String → List String → Option Client → Prop where
  | absent : Staffed none [] [] none
  | present {task : Task} {put taken : List String} {client : Client}
      (serves : Serves task put taken client) :
      Staffed (some task) put taken (some client)

namespace Staffed

variable {task : Option Task} {put taken : List String} {client : Option Client}

theorem step {task : Option Task} {client : Client} {queue : Queue Nat String} {me pick : Nat}
    {step : Step} (staffed : Staffed task put taken (some client))
    (stepped : client.step queue me pick = some step) :
    Staffed task (put ++ entered step.transfer) (taken ++ departed step.transfer)
      (some step.client) := by
  cases staffed with
  | present serves => exact .present (serves.step stepped)

/-- What was put is the item of the task, put by a push that says so. -/
theorem mem_put_iff (staffed : Staffed task put taken client) {item : String} :
    item ∈ put ↔ task = some (.push item) ∧
      (client = some (.ended (.pushed .placed)) ∨
        client = some (.pushing (.leaving .placed))) := by
  cases staffed with
  | absent => simp
  | present serves =>
      cases serves with
      | @pushing other push of =>
          cases push <;> simp [Push.placed]
          next result => cases result <;> simp [PushResult.items, eq_comm]
      | @pushed other result => cases result <;> simp [PushResult.items, eq_comm]
      | popping | popped | acting | acted => simp

/-- What was taken was taken by a pop that says so. -/
theorem mem_taken_iff (staffed : Staffed task put taken client) {item : String} :
    item ∈ taken ↔ client = some (.ended (.popped (.ok (some item)))) ∨
      client = some (.popping (.leaving (.ok (some item)))) := by
  cases staffed with
  | absent => simp
  | present serves =>
      cases serves with
      | @popping pop =>
          cases pop <;> simp [Pop.taken]
          next result =>
            rcases result with fault | (none | other) <;> simp [PopResult.taken, eq_comm]
      | @popped result =>
          rcases result with fault | (none | other) <;> simp [PopResult.taken, eq_comm]
      | pushing | pushed | acting | acted => simp

/-- A single call puts and takes one item at most. -/
theorem length_le_one (staffed : Staffed task put taken client) :
    put.length ≤ 1 ∧ taken.length ≤ 1 := by
  cases staffed with
  | absent => simp
  | present serves =>
      cases serves with
      | @pushing other push of =>
          cases push <;> simp [Push.placed]
          next result => cases result <;> simp [PushResult.items]
      | @pushed other result => cases result <;> simp [PushResult.items]
      | @popping pop =>
          cases pop <;> simp [Pop.taken]
          next result => rcases result with fault | (none | other) <;> simp [PopResult.taken]
      | @popped result =>
          rcases result with fault | (none | other) <;> simp [PopResult.taken]
      | acting | acted => simp

end Staffed

/-- Every thread of a session serves its task. -/
def AllServe (tasks : List Task) (events : List Event) (session : Session) : Prop :=
  ∀ thread, Staffed tasks[thread]? (ofThread thread (puts events))
    (ofThread thread (takes events)) session.clients[thread]?

theorem AllServe.opening {tasks : List Task} (single : ∀ task ∈ tasks, task.IsCall)
    (capacity : Nat) : AllServe tasks [] (opening capacity tasks) := by
  intro thread
  simp only [Session.opening, List.getElem?_map]
  cases given : tasks[thread]? with
  | none => exact .absent
  | some task => exact .present (.start (single task (List.mem_of_getElem? given)))

theorem AllServe.step {tasks : List Task} {before seen : List Event} {session next : Session}
    {thread pick : Nat} (serve : AllServe tasks before session)
    (moved : system.step thread pick session = some (next, seen)) :
    AllServe tasks (before ++ seen) next := by
  rcases step_eq_some moved with ⟨client, step, there, stepped, rfl, rfl⟩
  intro other
  simp only [puts_append, takes_append, puts_events, takes_events, ofThread_append]
  have served := serve other
  by_cases same : thread = other
  · subst same
    rcases List.getElem?_eq_some_iff.mp there with ⟨inside, _⟩
    rw [List.getElem?_set_self inside, ofThread_map_self, ofThread_map_self]
    rw [there] at served
    exact served.step stepped
  · rw [List.getElem?_set_ne same, ofThread_map_ne same, ofThread_map_ne same, List.append_nil,
      List.append_nil]
    exact served

theorem allServe {capacity : Nat} {tasks : List Task} {events : List Event} {last : Session}
    (single : ∀ task ∈ tasks, task.IsCall)
    (run : system.Run (opening capacity tasks) events last) : AllServe tasks events last :=
  run.keeps (.opening single capacity) fun _ _ _ _ _ _ serve moved => serve.step moved

/-- In every state that threads with one call each can reach, the items whose pushes were placed,
in the order in which they were put, are the items that pops took, in the order in which they were
taken, followed by the items in the ring, oldest first.  Each push puts at most its own item, once,
and only if it answers that it was placed; so an item that was refused, and that no other thread
pushes, is neither in the ring nor has it been taken.  Somebody who makes several calls in turn is
one thread for each of them here. -/
theorem placed_eq_taken_append_ring (capacity : Count) (positive : 0 < capacity.toNat)
    (tasks : List Task) (single : ∀ task ∈ tasks, task.IsCall) (events : List Event)
    (last : Session) (run : system.Run (opening capacity.toNat tasks) events last) :
    (puts events).map Prod.snd = (takes events).map Prod.snd ++ last.queue.ring.toList ∧
      (∀ (thread : Nat) (item : String), (thread, item) ∈ puts events ↔
        tasks[thread]? = some (.push item) ∧ last.HasPlaced thread) ∧
      ((puts events).map Prod.fst).Nodup ∧
      (∀ (thread : Nat) (item : String), (thread, item) ∈ takes events ↔
        last.HasTaken thread item) ∧
      ((takes events).map Prod.fst).Nodup ∧
      ∀ (thread : Nat) (item : String) (reason : Refusal),
        tasks[thread]? = some (.push item) →
        last.clients[thread]? = some (.ended (.pushed (.refused reason))) →
        (∀ other : Nat, tasks[other]? = some (.push item) → other = thread) →
        item ∉ last.queue.ring.toList ∧ item ∉ (takes events).map Prod.snd := by
  have accounted := accounted positive run
  have serve := allServe single run
  have put (thread : Nat) (item : String) : (thread, item) ∈ puts events ↔
      tasks[thread]? = some (.push item) ∧ last.HasPlaced thread :=
    mem_iff_mem_ofThread.trans (serve thread).mem_put_iff
  refine ⟨accounted.items, put, ?_, ?_, ?_, ?_⟩
  · exact nodup_threads fun thread => (serve thread).length_le_one.1
  · intro thread item
    exact mem_iff_mem_ofThread.trans (serve thread).mem_taken_iff
  · exact nodup_threads fun thread => (serve thread).length_le_one.2
  · intro thread item reason given refused alone
    have notPut : item ∉ (puts events).map Prod.snd := by
      intro member
      rcases List.mem_map.mp member with ⟨⟨other, _⟩, entry, rfl⟩
      rcases (put other _).mp entry with ⟨task, placed⟩
      rw [alone other task] at placed
      simp [HasPlaced, refused] at placed
    rw [accounted.items, List.mem_append, not_or] at notPut
    exact notPut.symm

/-- The push of the thread was refused because the stream had ended. -/
def Client.isClosedOut : Client → Bool
  | .ended (.pushed (.refused .closed)) => true
  | _ => false

/-- A push that sleeps at a full ring while the stream ends is woken by a pop and refused. -/
theorem placed_eq_taken_append_ring_of_refusal :
    let tasks : List Task := [.push "a", .push "b", .act .endStream, .pop]
    let settled := (opening 1 tasks).settle
    takes settled.2 = [(3, "a")] ∧
      (puts settled.2).map Prod.snd =
        (takes settled.2).map Prod.snd ++ settled.1.queue.ring.toList ∧
      "b" ∉ settled.1.queue.ring.toList := by
  intro tasks settled
  have single : ∀ task ∈ tasks, task.IsCall := by
    simp only [tasks, List.forall_mem_cons]
    exact ⟨.push "a", .push "b", .act .endStream, .pop, by simp⟩
  have alone : ∀ other : Nat, tasks[other]? = some (.push "b") → other = 1 := by
    intro other given
    rcases other with _ | _ | _ | _ | other
    · simp [tasks] at given
    · rfl
    all_goals simp [tasks] at given
  have found : settled.1.clients[1]?.any Client.isClosedOut = true := by decide +kernel
  have refused : settled.1.clients[1]? = some (.ended (.pushed (.refused .closed))) := by
    rcases (Option.any_eq_true _ _).mp found with ⟨client, there, closed⟩
    rw [there]
    unfold Client.isClosedOut at closed
    split at closed
    · rfl
    · cases closed
  have ordered := placed_eq_taken_append_ring 1 (by decide) tasks single settled.2 settled.1
    (System.run_settle ..)
  rcases ordered with ⟨items, -, -, -, -, nowhere⟩
  exact ⟨by decide +kernel, items, (nowhere 1 "b" .closed rfl refused alone).1⟩

end Session

end LineTally
