import LineTally.Proofs.Queue.Closing
import LineTally.Proofs.Session.Release

/-!
# Sessions after the end of the stream

The end of the stream is marked once.  The call that marks it has the lock, so every other such call
has its look at the mark before it, and finds it made.  From that moment on nothing is put, and the
items that are left are taken in order, before a pop returns without an item.
-/

namespace LineTally.Session

open Queue

/-! ## What answers tell -/

/-- A thread whose task it is to mark the end of the stream is in that call, or has returned. -/
theorem Client.Performs.ending {client : Client} (performs : client.Performs .endStream) :
    (∃ call, client = .acting (.ending call)) ∨ ∃ first, client = .ended (.acted first) := by
  cases client with
  | acting inside =>
      cases inside with
      | ending call => exact Or.inl ⟨call, rfl⟩
      | cancelling | shuttingDown | raisingFlag => cases performs
  | ended outcome =>
      cases outcome with
      | acted first => exact Or.inr ⟨first, rfl⟩
      | pushed | popped | produced | consumed => cases performs
  | pushing | popping | reading | consuming => cases performs

/-- A call that marks the end of the stream returns when it gives the lock back. -/
theorem Client.ending_of_returned {queue : Queue Nat String} {me pick : Nat} {call : EndStream}
    {step : Step} {first : Bool}
    (stepped : (Client.acting (.ending call)).step queue me pick = some step)
    (returned : step.client = .ended (.acted first)) :
    call = .leaving first ∧ step.queue = queue.unlock := by
  rcases Option.map_eq_some_iff.mp stepped with ⟨acted, moved, rfl⟩
  rcases Option.map_eq_some_iff.mp moved with ⟨move, inner, rfl⟩
  cases progress : move.progress with
  | «at» next => simp [progress] at returned
  | returned answer =>
      simp only [progress, Client.ended.injEq, Outcome.acted.injEq] at returned ⊢
      subst returned
      exact EndStream.eq_of_returned inner progress

/-- A pop returns when it gives the lock back. -/
theorem Client.popping_of_returned {queue : Queue Nat String} {me pick : Nat} {client : Client}
    {step : Step} {result : PopResult String} (stepped : client.step queue me pick = some step)
    (returned : step.client = .ended (.popped result)) :
    client = .popping (.leaving result) ∧ step.queue = queue.unlock := by
  cases client with
  | popping pop =>
      rcases Option.map_eq_some_iff.mp stepped with ⟨move, moved, rfl⟩
      cases progress : move.progress with
      | «at» next => simp [progress] at returned
      | returned answer =>
          simp only [progress, Client.ended.injEq, Outcome.popped.injEq] at returned ⊢
          subst returned
          rcases Pop.eq_of_returned moved progress with ⟨rfl, unlocked⟩
          exact ⟨rfl, unlocked⟩
  | pushing push =>
      rcases Option.map_eq_some_iff.mp stepped with ⟨move, -, rfl⟩
      cases progress : move.progress <;> simp [progress] at returned
  | reading reader =>
      rcases Option.map_eq_some_iff.mp stepped with ⟨step, -, rfl⟩
      cases there : step.reader <;> simp [there] at returned
  | consuming index predicate consumer =>
      rcases Option.map_eq_some_iff.mp stepped with ⟨step, -, rfl⟩
      cases there : step.consumer <;> simp [there] at returned
  | acting inside =>
      rcases Option.map_eq_some_iff.mp stepped with ⟨acted, -, rfl⟩
      cases progress : acted.progress <;> simp [progress] at returned
  | ended outcome => cases stepped

/-- What the answers of calls tell about the queue: where a call that marks the end of the stream
has returned, the stream has ended, and where a pop has found nothing, the queue has stopped. -/
structure Informed (tasks : List Task) (session : Session) : Prop where
  ended : ∀ (thread : Nat) (first : Bool), tasks[thread]? = some (.act .endStream) →
    session.clients[thread]? = some (.ended (.acted first)) → session.queue.ended = true
  stopped : ∀ thread : Nat, session.clients[thread]? = some (.ended (.popped (.ok none))) →
    session.queue.Stopped

theorem Informed.opening (capacity : Nat) (tasks : List Task) :
    Informed tasks (opening capacity tasks) := by
  have unreturned (thread : Nat) (outcome : Outcome) :
      (Session.opening capacity tasks).clients[thread]? ≠ some (.ended outcome) := by
    simp only [Session.opening, List.getElem?_map]
    cases tasks[thread]? with
    | none => simp
    | some task => cases task <;> simp [Client.start]
  exact ⟨fun thread first _ there => absurd there (unreturned thread _),
    fun thread there => absurd there (unreturned thread _)⟩

theorem Informed.step {tasks : List Task} {session next : Session} {thread pick : Nat}
    {seen : List Event} (informed : Informed tasks session) (freed : Freed tasks session)
    (moved : system.step thread pick session = some (next, seen)) : Informed tasks next := by
  rcases step_eq_some moved with ⟨client, step, there, stepped, rfl, rfl⟩
  have advances := (moves there stepped).advances
  have ground : client.call.Grounded session.queue := by
    simpa [calls, there] using (freed.consistent.fits thread).ground
  constructor
  · intro other first given found
    rcases eq_or_getElem?_of_set found with ⟨rfl, returned⟩ | ⟨-, found⟩
    · rcases (freed.performs other _ client given there).ending with ⟨call, rfl⟩ | ⟨_, rfl⟩
      · rcases Client.ending_of_returned stepped returned.symm with ⟨rfl, unlocked⟩
        have ended : session.queue.ended = true := ground
        rw [unlocked]
        exact ended
      · cases stepped
    · exact advances.ended_mono (informed.ended other first given found)
  · intro other found
    rcases eq_or_getElem?_of_set found with ⟨rfl, returned⟩ | ⟨-, found⟩
    · rcases Client.popping_of_returned stepped returned.symm with ⟨rfl, unlocked⟩
      have stopped : session.queue.Stopped := ground
      rw [unlocked]
      exact stopped
    · exact (informed.stopped other found).advances advances

theorem informed {capacity : Count} (positive : 0 < capacity.toNat) {tasks : List Task}
    {events : List Event} {last : Session}
    (run : system.Run (opening capacity.toNat tasks) events last) : Informed tasks last :=
  run.keeps_state (.opening _ tasks) fun _ _ _ _ _ _ early informed moved =>
    informed.step (freed positive early) moved

/-! ## The moment at which the end is marked -/

/-- In a run of these threads, this one marks the end of the stream: it had not been marked, and is
from this moment on. -/
inductive Marks (capacity : Nat) (tasks : List Task) (closer : Nat) :
    List Event → Session → Prop where
  | step {before seen : List Event} {middle moment : Session} {pick : Nat}
      (early : system.Run (opening capacity tasks) before middle)
      (moved : system.step closer pick middle = some (moment, seen))
      (unended : middle.queue.ended = false) (ended : moment.queue.ended = true) :
      Marks capacity tasks closer (before ++ seen) moment

theorem Marks.run {capacity : Nat} {tasks : List Task} {closer : Nat} {before : List Event}
    {moment : Session} (marks : Marks capacity tasks closer before moment) :
    system.Run (opening capacity tasks) before moment := by
  cases marks with
  | step early moved _ _ => exact early.tail closer _ moved

/-- The end of the stream is marked in every run that comes to it. -/
theorem exists_marks {capacity : Nat} {tasks : List Task} {events : List Event} {last : Session}
    (run : system.Run (opening capacity tasks) events last) (ended : last.queue.ended = true) :
    ∃ closer before moment later, Marks capacity tasks closer before moment ∧
      system.Run moment later last ∧ events = before ++ later := by
  induction run with
  | refl => cases ended
  | @tail middle last before seen thread pick early moved ih =>
      cases mark : middle.queue.ended with
      | false =>
          exact ⟨thread, before ++ seen, last, [], .step early moved mark ended, .refl last,
            (List.append_nil _).symm⟩
      | true =>
          rcases ih mark with ⟨closer, before, moment, later, marks, late, rfl⟩
          exact ⟨closer, before, moment, later ++ seen, marks, late.tail thread pick moved,
            List.append_assoc ..⟩

/-- Where a call is that comes too late to mark the end of the stream.  It has the lock only after
the one that came in time has returned. -/
inductive Client.Late (returned : Prop) : Client → Prop where
  | arriving : Late returned (.acting (.ending .arriving))
  | marking (behind : returned) : Late returned (.acting (.ending .marking))
  | leaving (behind : returned) : Late returned (.acting (.ending (.leaving false)))
  | answered (behind : returned) : Late returned (.ended (.acted false))

theorem Client.Late.imp {returned returned' : Prop} {client : Client}
    (late : client.Late returned) (kept : returned → returned') : client.Late returned' := by
  cases late with
  | arriving => exact .arriving
  | marking behind => exact .marking (kept behind)
  | leaving behind => exact .leaving (kept behind)
  | answered behind => exact .answered (kept behind)

/-- A call that marks the end of an ended stream changes nothing but who has the lock. -/
structure Step.Unmarked (queue : Queue Nat String) (step : Step) : Prop where
  queue : step.queue = { queue with holder := step.queue.holder }
  events : ∀ thread, step.events thread = []

theorem Client.Late.step {returned : Prop} {queue : Queue Nat String} {me pick : Nat}
    {client : Client} {step : Step} (late : client.Late returned) (ended : queue.ended = true)
    (free : queue.holder = none → returned)
    (stepped : client.step queue me pick = some step) :
    step.client.Late returned ∧ step.Unmarked queue := by
  cases late with
  | arriving =>
      rcases Option.map_eq_some_iff.mp stepped with ⟨acted, moved, rfl⟩
      rcases Option.map_eq_some_iff.mp moved with ⟨move, inner, rfl⟩
      rcases Option.map_eq_some_iff.mp inner with ⟨next, locked, rfl⟩
      rcases lock?_eq_some locked with ⟨unlocked, rfl⟩
      exact ⟨.marking (free unlocked), rfl, fun _ => rfl⟩
  | marking behind =>
      simp only [Client.step, Acting.step, EndStream.step, if_pos ended, Option.map_some]
        at stepped
      cases stepped
      exact ⟨.leaving behind, rfl, fun _ => rfl⟩
  | leaving behind =>
      cases stepped
      exact ⟨.answered behind, rfl, fun _ => rfl⟩
  | answered => cases stepped

/-- What a session has come to since this moment, at which this thread marked the end. -/
structure Closed (tasks : List Task) (closer : Nat) (moment : Session) (later : List Event)
    (session : Session) : Prop where
  consistent : Consistent session.queue session.calls
  given : tasks[closer]? = some (.act .endStream)
  ended : session.queue.ended = true
  first : session.clients[closer]? = some (.acting (.ending (.leaving true))) ∨
    session.clients[closer]? = some (.ended (.acted true))
  others : ∀ (other : Nat) (client : Client), other ≠ closer →
    tasks[other]? = some (.act .endStream) → session.clients[other]? = some client →
    client.Late (session.clients[closer]? = some (.ended (.acted true)))
  puts : puts later = []
  items : moment.queue.ring.toList = (takes later).map Prod.snd ++ session.queue.ring.toList

/-- A thread with a single call that marks the end of the stream does nothing else. -/
theorem Staffed.eq_ending {task : Option Task} {put taken : List String} {client : Client}
    {call : EndStream} (staffed : Staffed task put taken (some client))
    (there : client.call = .endStream call) :
    (∃ action, task = some (.act action)) ∧ client = .acting (.ending call) := by
  cases staffed with
  | present serves =>
      cases serves with
      | @acting action inside =>
          cases inside with
          | ending =>
              cases there
              exact ⟨⟨action, rfl⟩, rfl⟩
          | cancelling | shuttingDown | raisingFlag => cases there
      | pushing | popping | pushed | popped | acted => cases there

/-- The thread by whose step the stream ends is in the call that marks the end. -/
theorem marking_of_ended {capacity : Count} (positive : 0 < capacity.toNat) {tasks : List Task}
    (single : ∀ task ∈ tasks, task.IsCall) {before : List Event} {middle : Session}
    (early : system.Run (opening capacity.toNat tasks) before middle) {thread pick : Nat}
    {client : Client} {step : Step} (there : middle.clients[thread]? = some client)
    (stepped : client.step middle.queue thread pick = some step)
    (unended : middle.queue.ended = false) (ended : step.queue.ended = true) :
    tasks[thread]? = some (.act .endStream) ∧ client = .acting (.ending .marking) := by
  have marking : client.call = .endStream .marking := by
    by_contra elsewhere
    rw [(Client.advances stepped).ended_eq elsewhere, unended] at ended
    cases ended
  have served := allServe single early thread
  rw [there] at served
  rcases served.eq_ending marking with ⟨⟨action, given⟩, rfl⟩
  have performs := (freed positive early).performs thread action _ given there
  cases performs
  exact ⟨given, rfl⟩

/-- When the end is marked, the thread that does so has the lock: no other call that marks the end
has looked at the mark, and no push or pop is about to return. -/
theorem Marks.closed {capacity : Count} (positive : 0 < capacity.toNat) {tasks : List Task}
    (single : ∀ task ∈ tasks, task.IsCall) {closer : Nat} {before : List Event}
    {moment : Session} (marks : Marks capacity.toNat tasks closer before moment) :
    moment.queue.holder = some closer ∧
      moment.clients[closer]? = some (.acting (.ending (.leaving true))) ∧
      Closed tasks closer moment [] moment := by
  have freed := freed positive marks.run
  cases marks with
  | @step before seen middle moment pick early moved unended ended =>
      rcases step_eq_some moved with ⟨client, step, there, stepped, rfl, rfl⟩
      rcases List.getElem?_eq_some_iff.mp there with ⟨inside, -⟩
      rcases marking_of_ended positive single early there stepped unended ended with ⟨given, rfl⟩
      have marked : step.client = .acting (.ending (.leaving true)) := by
        simp only [Client.step, Acting.step, EndStream.step, unended, Bool.false_eq_true, if_false,
          Option.map_some] at stepped
        cases stepped
        rfl
      have leaving : (middle.clients.set closer step.client)[closer]? =
          some (.acting (.ending (.leaving true))) := by
        rw [List.getElem?_set_self inside, marked]
      have held : step.queue.holder = some closer := by
        refine (freed.consistent.fits closer).lock.mpr ?_
        simp only [calls, leaving]
        rfl
      refine ⟨held, leaving, freed.consistent, given, ended, Or.inl leaving, ?_, rfl, rfl⟩
      intro other client different given found
      have unheld (holds : client.call.holdsLock = true) : False := by
        have own := (freed.consistent.fits other).lock.mpr
          (by simpa only [calls, found] using holds)
        exact different (Option.some.inj (own.symm.trans held))
      rcases (freed.performs other _ client given found).ending with ⟨call, rfl⟩ | ⟨first, rfl⟩
      · cases call with
        | arriving => exact .arriving
        | marking | leaving => exact (unheld rfl).elim
      · rw [List.getElem?_set_ne different.symm] at found
        have before := (informed positive early).ended other first given found
        rw [unended] at before
        cases before

namespace Closed

variable {tasks : List Task} {closer : Nat} {moment session : Session} {later : List Event}

/-- While the call that marked the end has not returned, it has the lock. -/
theorem returned_of_free (closed : Closed tasks closer moment later session)
    (free : session.queue.holder = none) :
    session.clients[closer]? = some (.ended (.acted true)) := by
  refine closed.first.resolve_left fun leaving => ?_
  have held : session.queue.holder = some closer := by
    refine (closed.consistent.fits closer).lock.mpr ?_
    simp only [calls, leaving]
    rfl
  rw [free] at held
  cases held

/-- No call that marks the end changes anything any more. -/
theorem unmarked (closed : Closed tasks closer moment later session) {thread pick : Nat}
    {client : Client} {step : Step} (given : tasks[thread]? = some (.act .endStream))
    (there : session.clients[thread]? = some client)
    (stepped : client.step session.queue thread pick = some step) :
    step.Unmarked session.queue := by
  by_cases same : thread = closer
  · subst same
    rcases closed.first with leaving | ended
    · cases there.symm.trans leaving
      cases stepped
      exact ⟨rfl, fun _ => rfl⟩
    · cases there.symm.trans ended
      cases stepped
  · have late := closed.others thread client same given there
    exact (late.step closed.ended closed.returned_of_free stepped).2

theorem step {next : Session} {seen : List Event} {thread pick : Nat}
    (closed : Closed tasks closer moment later session)
    (moved : system.step thread pick session = some (next, seen)) :
    Closed tasks closer moment (later ++ seen) next := by
  rcases step_eq_some moved with ⟨client, step, there, stepped, rfl, rfl⟩
  rcases List.getElem?_eq_some_iff.mp there with ⟨inside, -⟩
  have moves := moves there stepped
  have nothing := moves.advances.entered_eq_nil_of_ended closed.ended
  have behind (returned : session.clients[closer]? = some (.ended (.acted true))) :
      (session.clients.set thread step.client)[closer]? = some (.ended (.acted true)) := by
    rcases eq_or_getElem?_set there step.client returned with ⟨rfl, rfl⟩ | kept
    · cases stepped
    · exact kept
  have first : (session.clients.set thread step.client)[closer]? =
        some (.acting (.ending (.leaving true))) ∨
      (session.clients.set thread step.client)[closer]? = some (.ended (.acted true)) := by
    rcases closed.first with leaving | returned
    · rcases eq_or_getElem?_set there step.client leaving with ⟨rfl, rfl⟩ | kept
      · cases stepped
        exact Or.inr (List.getElem?_set_self inside)
      · exact Or.inl kept
    · exact Or.inr (behind returned)
  refine ⟨closed.consistent.moves moves, closed.given, moves.advances.ended_mono closed.ended,
    first, ?_, ?_, ?_⟩
  · intro other client' different given found
    rcases eq_or_getElem?_of_set found with ⟨rfl, rfl⟩ | ⟨-, found⟩
    · have late := closed.others other client different given there
      exact (late.step closed.ended closed.returned_of_free stepped).1.imp behind
    · exact (closed.others other client' different given found).imp behind
  · rw [puts_append, closed.puts, puts_events, nothing]
    rfl
  · have items := closed.consistent.items moves
    rw [nothing, List.append_nil] at items
    rw [closed.items, items, takes_append, takes_events]
    simp [Function.comp_def]

end Closed

theorem Marks.closed_of_run {capacity : Count} (positive : 0 < capacity.toNat) {tasks : List Task}
    (single : ∀ task ∈ tasks, task.IsCall) {closer : Nat} {before later : List Event}
    {moment last : Session} (marks : Marks capacity.toNat tasks closer before moment)
    (late : system.Run moment later last) : Closed tasks closer moment later last :=
  late.keeps (marks.closed positive single).2.2 fun _ _ _ _ _ _ closed moved => closed.step moved

/-! ## What comes of the end of the stream -/

/-- A push or a pop that has done its part when the lock is somebody else's has returned. -/
theorem returned_of_held {session : Session} {holder : Nat}
    (consistent : Consistent session.queue session.calls)
    (held : session.queue.holder = some holder)
    {call : Acting} (busy : session.clients[holder]? = some (.acting call)) :
    (∀ thread, session.HasPlaced thread →
      session.clients[thread]? = some (.ended (.pushed .placed))) ∧
    ∀ thread item, session.HasTaken thread item →
      session.clients[thread]? = some (.ended (.popped (.ok (some item)))) := by
  have unheld (thread : Nat) (client : Client) (there : session.clients[thread]? = some client)
      (holds : client.call.holdsLock = true) : client = .acting call := by
    have own := (consistent.fits thread).lock.mpr (by simpa only [calls, there] using holds)
    obtain rfl := Option.some.inj (own.symm.trans held)
    exact Option.some.inj (there.symm.trans busy)
  constructor
  · rintro thread (ended | leaving)
    · exact ended
    · cases unheld thread _ leaving rfl
  · rintro thread item (ended | leaving)
    · exact ended
    · cases unheld thread _ leaving rfl

/-- Only a thread that is there to push pushes. -/
theorem Staffed.exists_push {task : Option Task} {put taken : List String} {client : Option Client}
    (staffed : Staffed task put taken client)
    (placed : client = some (.ended (.pushed .placed)) ∨
      client = some (.pushing (.leaving .placed))) : ∃ item, task = some (.push item) := by
  cases staffed with
  | absent => simp at placed
  | present serves =>
      cases serves with
      | @pushing item | @pushed item => exact ⟨item, rfl⟩
      | popping | popped | acting | acted => simp at placed

/-- What has come, in a run from the moment at which this thread marked the end of the stream. -/
structure AfterEnd (tasks : List Task) (closer : Nat) (moment : Session) (later : List Event)
    (last : Session) : Prop where
  /-- Its call answers that it was the first, or is about to. -/
  first : tasks[closer]? = some (.act .endStream) ∧
    (last.clients[closer]? = some (.acting (.ending (.leaving true))) ∨
      last.clients[closer]? = some (.ended (.acted true)))
  /-- Another call that marks the end returns after it, and answers that it was not. -/
  others : ∀ (other : Nat) (answer : Bool), other ≠ closer →
    tasks[other]? = some (.act .endStream) →
    last.clients[other]? = some (.ended (.acted answer)) →
    answer = false ∧ last.clients[closer]? = some (.ended (.acted true))
  /-- A step of such a call changes nothing but who has the lock. -/
  unmarked : ∀ (other pick : Nat) (next : Session) (seen : List Event),
    tasks[other]? = some (.act .endStream) →
    system.step other pick last = some (next, seen) →
    next.queue = { last.queue with holder := next.queue.holder } ∧ seen = []
  /-- Nothing was put. -/
  puts : puts later = []
  /-- A push that succeeds has returned before. -/
  pushes : ∀ thread : Nat, last.HasPlaced thread →
    moment.clients[thread]? = some (.ended (.pushed .placed))
  /-- What was in the ring was taken in order, and the rest is in the ring. -/
  items : moment.queue.ring.toList = (takes later).map Prod.snd ++ last.queue.ring.toList
  /-- What was taken is what pops return that had not returned before. -/
  pops : ∀ (thread : Nat) (item : String), (thread, item) ∈ takes later ↔
    last.HasTaken thread item ∧
      moment.clients[thread]? ≠ some (.ended (.popped (.ok (some item))))
  /-- Each of them returns one item. -/
  once : ((takes later).map Prod.fst).Nodup
  /-- Unless the queue was cancelled, a pop has found nothing only if everything was taken. -/
  drained : last.queue.cancelled = false → ∀ thread : Nat,
    last.clients[thread]? = some (.ended (.popped (.ok none))) →
    (takes later).map Prod.snd = moment.queue.ring.toList

theorem Marks.afterEnd {capacity : Count} (positive : 0 < capacity.toNat) {tasks : List Task}
    (single : ∀ task ∈ tasks, task.IsCall) {closer : Nat} {before later : List Event}
    {moment last : Session} (marks : Marks capacity.toNat tasks closer before moment)
    (late : system.Run moment later last) : AfterEnd tasks closer moment later last := by
  have closed := marks.closed_of_run positive single late
  have run := marks.run.trans late
  have freed := freed positive run
  have serve := allServe single run
  have served := allServe single marks.run
  have done : (∀ thread, moment.HasPlaced thread →
      moment.clients[thread]? = some (.ended (.pushed .placed))) ∧
      ∀ thread item, moment.HasTaken thread item →
        moment.clients[thread]? = some (.ended (.popped (.ok (some item)))) := by
    rcases marks.closed positive single with ⟨held, leaving, start⟩
    exact returned_of_held start.consistent held leaving
  have once := nodup_threads fun thread => (serve thread).length_le_one.2
  rw [takes_append, List.map_append, List.nodup_append] at once
  refine ⟨⟨closed.given, closed.first⟩, ?_, ?_, closed.puts, ?_, closed.items, ?_, once.2.1, ?_⟩
  · intro other answer different given answered
    cases closed.others other _ different given answered with
    | answered behind => exact ⟨rfl, behind⟩
  · intro other pick next seen given moved
    rcases step_eq_some moved with ⟨client, step, there, stepped, rfl, rfl⟩
    have unmarked := closed.unmarked given there stepped
    exact ⟨unmarked.queue, unmarked.events other⟩
  · intro thread placed
    rcases (serve thread).exists_push placed with ⟨item, given⟩
    have put : (thread, item) ∈ puts (before ++ later) :=
      mem_iff_mem_ofThread.mpr ((serve thread).mem_put_iff.mpr ⟨given, placed⟩)
    rw [puts_append, closed.puts, List.append_nil] at put
    exact done.1 thread ((served thread).mem_put_iff.mp (mem_iff_mem_ofThread.mp put)).2
  · intro thread item
    have taken : (thread, item) ∈ takes before ++ takes later ↔ last.HasTaken thread item := by
      rw [← takes_append]
      exact mem_iff_mem_ofThread.trans (serve thread).mem_taken_iff
    have early : (thread, item) ∈ takes before ↔ moment.HasTaken thread item :=
      mem_iff_mem_ofThread.trans (served thread).mem_taken_iff
    rw [← taken, List.mem_append]
    constructor
    · intro late
      refine ⟨Or.inr late, fun returned => ?_⟩
      have before := early.mpr (Or.inl returned)
      exact once.2.2 _ (List.mem_map_of_mem before) _ (List.mem_map_of_mem late) rfl
    · rintro ⟨early' | late, unreturned⟩
      · exact absurd (done.2 thread item (early.mp early')) unreturned
      · exact late
  · intro clear thread nothing
    have stopped := (informed positive run).stopped thread nothing
    have empty : last.queue.ring.toList = [] := by
      rcases stopped with cancelled | ⟨-, count⟩
      · rw [clear] at cancelled
        cases cancelled
      · rw [freed.consistent.ring.count_eq] at count
        exact List.length_eq_zero_iff.mp count
    rw [closed.items, empty, List.append_nil]

end LineTally.Session
