import LineTally.Proofs.Session.Closing
import LineTally.Proofs.Session.History

/-!
# Sessions in which a pop has found nothing

A pop that returns without an item has found the queue cancelled, or ended and empty; neither
changes any more.  So a pop that begins later returns without an item as well, and never parks.
Together with what comes of the end of the stream this says that stopping is for good.
-/

namespace LineTally.Session

open Queue

/-- The number of steps that a thread took, of those on record. -/
def stepsOf (thread : Nat) (records : List (System.Record Session Nat Event)) : Nat :=
  records.countP (·.thread = thread)

/-- The pop of a thread began when the queue had stopped: it has a few steps left, none of which
parks it, or has returned without an item. -/
inductive Passing (queue : Queue Nat String) (taken : Nat) : Client → Prop where
  | popping {pop : Pop String} (passes : pop.Passes queue) (few : taken + pop.left ≤ 5) :
      Passing queue taken (.popping pop)
  | popped (few : taken ≤ 5) : Passing queue taken (.ended (.popped (.ok none)))

theorem Passing.step {queue : Queue Nat String} {taken me pick : Nat} {client : Client}
    {step : Step} (passing : Passing queue taken client) (stopped : queue.Stopped)
    (stepped : client.step queue me pick = some step) :
    Passing step.queue (taken + 1) step.client := by
  cases passing with
  | popping passes few =>
      rcases Option.map_eq_some_iff.mp stepped with ⟨move, moved, rfl⟩
      rcases passes.step stopped moved with ⟨next, progress, passes, less⟩ | ⟨progress, some⟩
      · simp only [progress]
        exact .popping passes (by omega)
      · simp only [progress]
        exact .popped (by omega)
  | popped => cases stepped

/-- What holds of a session on record in which the pop of a thread began when the queue had
stopped. -/
structure Bypassed (thread : Nat) (records : List (System.Record Session Nat Event))
    (session : Session) : Prop where
  consistent : Consistent session.queue session.calls
  stopped : session.queue.Stopped
  passing : ∃ client, session.clients[thread]? = some client ∧
    Passing session.queue (stepsOf thread records) client

theorem Bypassed.step {thread mover pick : Nat}
    {before seen : List (System.Record Session Nat Event)} {session next : Session}
    (bypassed : Bypassed thread before session)
    (moved : system.recorded.step mover pick session = some (next, seen)) :
    Bypassed thread (before ++ seen) next := by
  rcases System.step_of_recorded moved with ⟨events, recorded, rfl⟩
  rcases step_eq_some recorded with ⟨moving, step, found, stepped, rfl, rfl⟩
  rcases List.getElem?_eq_some_iff.mp found with ⟨inside, -⟩
  have moves := moves found stepped
  refine ⟨bypassed.consistent.moves moves, bypassed.stopped.advances moves.advances, ?_⟩
  rcases bypassed.passing with ⟨client, there, passing⟩
  by_cases same : mover = thread
  · subst same
    cases there.symm.trans found
    refine ⟨step.client, List.getElem?_set_self inside, ?_⟩
    simpa [stepsOf] using passing.step bypassed.stopped stepped
  · refine ⟨client, by rw [List.getElem?_set_ne same]; exact there, ?_⟩
    have taken : stepsOf thread (before ++ [⟨mover, session, step.events mover⟩]) =
        stepsOf thread before := by simp [stepsOf, same]
    rw [taken]
    cases passing with
    | popping passes few => exact .popping (passes.advances moves.advances) few
    | popped few => exact .popped few

/-- What a pop comes to that began when some pop had found nothing. -/
structure FindsNothing (thread : Nat) (records : List (System.Record Session Nat Event))
    (last : Session) : Prop where
  /-- It has returned without an item, or is on its way there and neither parks nor is about to. -/
  unparked : last.clients[thread]? = some (.ended (.popped (.ok none))) ∨
    ∃ pop, last.clients[thread]? = some (.popping pop) ∧ pop ≠ .settling ∧ pop ≠ .sleeping ∧
      ∀ result, pop = .leaving result → result = .ok none
  /-- It takes a few steps. -/
  few : stepsOf thread records ≤ 5
  /-- It waits for nothing but the lock. -/
  ready : last.queue.holder = none →
    last.clients[thread]? = some (.ended (.popped (.ok none))) ∨
      ∀ pick, (system.step thread pick last).isSome = true
  /-- Where no thread has a step, it has returned. -/
  returned : system.Stuck last → last.clients[thread]? = some (.ended (.popped (.ok none)))

theorem Bypassed.findsNothing {thread : Nat} {records : List (System.Record Session Nat Event)}
    {last : Session} (bypassed : Bypassed thread records last) :
    FindsNothing thread records last := by
  have ready (free : last.queue.holder = none) :
      last.clients[thread]? = some (.ended (.popped (.ok none))) ∨
        ∀ pick, (system.step thread pick last).isSome = true := by
    rcases bypassed.passing with ⟨client, there, passing⟩
    cases passing with
    | popped => exact Or.inl there
    | @popping pop passes _ =>
        right
        intro pick
        have moves : (pop.step last.queue thread pick).isSome = true := by
          rw [Option.isSome_iff_ne_none]
          intro none
          rcases (Pop.waits none).asleep free with ⟨⟨_, there⟩, -⟩ | ⟨asleep, -⟩
          · cases there
          · cases asleep
            exact passes
        rcases Option.isSome_iff_exists.mp moves with ⟨move, moved⟩
        simp [system, there, Client.step, moved]
  refine ⟨?_, ?_, ready, ?_⟩
  · rcases bypassed.passing with ⟨client, there, passing⟩
    cases passing with
    | popped => exact Or.inl there
    | @popping pop passes _ =>
        refine Or.inr ⟨pop, there, ?_, ?_, ?_⟩
        · rintro rfl
          exact passes
        · rintro rfl
          exact passes
        · rintro result rfl
          exact passes
  · rcases bypassed.passing with ⟨client, -, passing⟩
    cases passing with
    | popped few => exact few
    | popping _ few => exact Nat.le_trans (Nat.le_add_right _ _) few
  · intro stuck
    have free := bypassed.consistent.holder_eq_none (AtRest.of_stuck stuck).rests
    refine (ready free).resolve_right fun moves => ?_
    have moves := moves 0
    rw [stuck thread 0] at moves
    cases moves

theorem findsNothing {capacity : Count} (positive : 0 < capacity.toNat) {tasks : List Task}
    {before : List Event} {middle last : Session}
    (early : system.Run (opening capacity.toNat tasks) before middle) {popper : Nat}
    (nothing : middle.clients[popper]? = some (.ended (.popped (.ok none))))
    {records : List (System.Record Session Nat Event)}
    (late : system.recorded.Run middle records last) {thread : Nat}
    (waiting : middle.clients[thread]? = some (.popping .arriving)) :
    FindsNothing thread records last := by
  have start : Bypassed thread [] middle := {
    consistent := (freed positive early).consistent
    stopped := (informed positive early).stopped popper nothing
    passing := ⟨_, waiting, .popping trivial (Nat.le_refl 5)⟩ }
  have bypassed : Bypassed thread records last :=
    late.keeps start fun _ _ _ _ _ _ bypassed moved => bypassed.step moved
  exact bypassed.findsNothing

/-- Stopping is for good.  In every run of threads with one call each, until the end of the stream
is marked no call that marks it has returned, and unless the queue is cancelled no pop has returned
without an item.  There is one moment at which it is marked, by one call; this call answers that it
was the first, and the others that they were not.  From that moment on such calls change nothing,
nothing is put, and pops take what was left in the ring, in order and once each, before one of them
returns without an item.  And once any pop has returned without an item, a pop that begins later
never parks and returns without an item as well.  Somebody who makes several calls in turn is one
thread for each of them here. -/
theorem stopped_for_good (capacity : Count) (positive : 0 < capacity.toNat)
    (tasks : List Task) (single : ∀ task ∈ tasks, task.IsCall) :
    (∀ (events : List Event) (last : Session),
      system.Run (opening capacity.toNat tasks) events last →
      (last.queue.ended = true ↔ ∃ closer before moment later,
        Marks capacity.toNat tasks closer before moment ∧ system.Run moment later last ∧
          events = before ++ later) ∧
      (last.queue.ended = false →
        (∀ (thread : Nat) (first : Bool), tasks[thread]? = some (.act .endStream) →
          last.clients[thread]? ≠ some (.ended (.acted first))) ∧
        (last.queue.cancelled = false → ∀ thread : Nat,
          last.clients[thread]? ≠ some (.ended (.popped (.ok none)))))) ∧
    (∀ (closer : Nat) (before : List Event) (moment : Session) (later : List Event)
      (last : Session), Marks capacity.toNat tasks closer before moment →
      system.Run moment later last → AfterEnd tasks closer moment later last) ∧
    ∀ (before : List Event) (middle : Session),
      system.Run (opening capacity.toNat tasks) before middle →
      ∀ popper : Nat, middle.clients[popper]? = some (.ended (.popped (.ok none))) →
      ∀ (records : List (System.Record Session Nat Event)) (last : Session),
      system.recorded.Run middle records last →
      ∀ thread : Nat, middle.clients[thread]? = some (.popping .arriving) →
        FindsNothing thread records last := by
  refine ⟨?_, ?_, ?_⟩
  · intro events last run
    have informed := informed positive run
    refine ⟨⟨exists_marks run, ?_⟩, ?_⟩
    · rintro ⟨closer, before, moment, later, marks, late, rfl⟩
      exact (marks.closed_of_run positive single late).ended
    · intro unended
      refine ⟨fun thread first given answered => ?_, fun clear thread nothing => ?_⟩
      · have ended := informed.ended thread first given answered
        rw [unended] at ended
        cases ended
      · rcases informed.stopped thread nothing with cancelled | ⟨ended, -⟩
        · rw [clear] at cancelled
          cases cancelled
        · rw [unended] at ended
          cases ended
  · exact fun closer before moment later last marks late => marks.afterEnd positive single late
  · intro before middle early popper nothing records last late thread waiting
    exact findsNothing positive early nothing late waiting

/-- The thread is there to pop and has not begun. -/
def Client.isBeforePop : Client → Bool
  | .popping .arriving => true
  | _ => false

theorem Client.eq_of_isBeforePop {client : Client} (before : client.isBeforePop = true) :
    client = .popping .arriving := by
  unfold isBeforePop at before
  split at before
  · rfl
  · cases before

/-- A push is parked when the end of the stream is marked.  A second call finds it marked, one pop
takes what was there and wakes the push, which is refused, and another pop finds nothing; so does a
pop that begins after that. -/
theorem stopped_for_good_of_parked :
    let tasks : List Task :=
      [.push "a", .push "b", .act .endStream, .act .endStream, .pop, .pop, .pop]
    let early := system.settle (fun _ => [0, 1, 2]) 9 (opening 1 tasks)
    let moment := system.settle (fun _ => [2]) 1 early.1
    let last := system.settle (fun _ => [2, 3, 4, 5, 1]) 32 moment.1
    let further := system.recorded.settle (fun _ => [6]) 8 last.1
    early.1.ParkedInPush 1 ∧ AfterEnd tasks 2 moment.1 last.2 last.1 ∧
      takes last.2 = [(4, "a")] ∧
      last.1.clients[3]? = some (.ended (.acted false)) ∧
      last.1.clients[1]? = some (.ended (.pushed (.refused .closed))) ∧
      FindsNothing 6 further.2 further.1 ∧ stepsOf 6 further.2 = 5 := by
  intro tasks early moment last further
  have single : ∀ task ∈ tasks, task.IsCall := by
    simp only [tasks, List.forall_mem_cons]
    exact ⟨.push _, .push _, .act _, .act _, .pop, .pop, .pop, by simp⟩
  have stops := stopped_for_good 1 (by decide) tasks single
  have begun : system.Run (opening 1 tasks) early.2 early.1 := System.run_settle ..
  have marks : Marks 1 tasks 2 (early.2 ++ moment.2) moment.1 := by
    have moves : (system.step 2 0 early.1).isSome = true := by decide +kernel
    rcases Option.isSome_iff_exists.mp moves with ⟨⟨next, seen⟩, moved⟩
    have same : moment = (next, seen) := by
      simp [moment, System.settle, System.firstStep?, moved]
    have ended : moment.1.queue.ended = true := by decide +kernel
    rw [same] at ended ⊢
    exact .step begun moved (by decide +kernel) ended
  have late : system.Run moment.1 last.2 last.1 := System.run_settle ..
  have nothing : last.1.clients[5]? = some (.ended (.popped (.ok none))) :=
    ended_of_outcome? (by decide +kernel)
  have waiting : last.1.clients[6]? = some (.popping .arriving) := by
    have found : last.1.clients[6]?.any Client.isBeforePop = true := by decide +kernel
    rcases (Option.any_eq_true _ _).mp found with ⟨client, there, before⟩
    rw [there, Client.eq_of_isBeforePop before]
  have passes := stops.2.2 _ last.1 (marks.run.trans late) 5 nothing further.2 further.1
    (System.run_settle ..) 6 waiting
  exact ⟨by decide +kernel, stops.2.1 2 _ moment.1 last.2 last.1 marks late, by decide +kernel,
    ended_of_outcome? (by decide +kernel), ended_of_outcome? (by decide +kernel), passes,
    by decide +kernel⟩

end LineTally.Session
