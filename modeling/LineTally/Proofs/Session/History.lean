import LineTally.Proofs.Session.Calls

/-!
# What each thread of a session has done

The items that a thread puts and takes are observed, and the log is read by everybody.  What its
source answers to it, and what its own calls return to it, it alone gets to know: this is told from
where it is before its step.  The history of a thread collects both.  What its own steps keep, and
what does not depend on what the other threads do to the queue, holds of it in every run.
-/

namespace LineTally

open Queue LineTally.System

/-- What a push returns by its next step, if it returns. -/
def Queue.Push.result? {α : Type} : Push α → Option PushResult
  | .leaving result => some result
  | _ => none

/-- What a pop returns by its next step, if it returns. -/
def Queue.Pop.result? {α : Type} : Pop α → Option (PopResult α)
  | .leaving result => some result
  | _ => none

/-- A push that goes on does not return. -/
theorem Queue.Push.result?_eq_none {ι α : Type} [DecidableEq ι] {queue : Queue ι α} {me : ι}
    {pick : Nat} {push next : Push α} {move : Move ι α (Push α) PushResult}
    (stepped : push.step queue me pick = some move) (progress : move.progress = .at next) :
    push.result? = none := by
  cases push with
  | leaving result =>
      cases stepped
      cases progress
  | _ => rfl

/-- A pop that goes on does not return. -/
theorem Queue.Pop.result?_eq_none {ι α : Type} [DecidableEq ι] {queue : Queue ι α} {me : ι}
    {pick : Nat} {pop next : Pop α} {move : Move ι α (Pop α) (PopResult α)}
    (stepped : pop.step queue me pick = some move) (progress : move.progress = .at next) :
    pop.result? = none := by
  cases pop with
  | leaving result =>
      cases stepped
      cases progress
  | _ => rfl

namespace Session

/-- What a thread gets to know by a step of its own. -/
inductive Doing where
  /-- It asked its source, which did this, or had ended. -/
  | asked (answer : Option Entry)
  /-- A push of it returned. -/
  | pushed (result : PushResult)
  /-- A pop of it returned. -/
  | popped (result : PopResult String)

/-- What a thread that is there gets to know by its next step. -/
def Client.doing? : Client → Option Doing
  | .reading (.asking source _) => some (.asked source.head?)
  | .pushing push | .reading (.pushing _ _ push) => push.result?.map .pushed
  | .popping pop | .consuming _ _ (.popping _ pop) => pop.result?.map .popped
  | _ => none

/-- The lines of the log among what was observed. -/
def logged (events : List Event) : List LogLine :=
  events.filterMap fun event =>
    match event with
    | .logged line => some line
    | .transferred .. => none

@[simp] theorem logged_events (thread : Nat) (step : Step) :
    logged (step.events thread) = step.log := by
  have silent : logged (step.transfer.map (Event.transferred thread)).toList = [] := by
    cases step.transfer <;> rfl
  have spoken : logged (step.log.map .logged) = step.log := by simp [logged, List.filterMap_map]
  have append (before after : List Event) :
      logged (before ++ after) = logged before ++ logged after := List.filterMap_append
  rw [Step.events, append, silent, spoken, List.nil_append]

/-- What a thread of a session has done. -/
structure History where
  /-- What it got to know, in order. -/
  doings : List Doing := []
  /-- The items that it put into the queue. -/
  puts : List String := []
  /-- The items that it took from the queue. -/
  takes : List String := []
  /-- What it wrote to the log. -/
  log : List LogLine := []

/-- The history of a thread, told from what is on record of all threads. -/
def historyOf (thread : Nat) (records : List (Record Session Nat Event)) : History where
  doings := (records.filter (·.thread = thread)).filterMap fun record =>
    record.before.clients[thread]?.bind Client.doing?
  puts := ofThread thread (puts (observed records))
  takes := ofThread thread (takes (observed records))
  log := (records.filter (·.thread = thread)).flatMap (logged ·.events)

/-- The history of a thread after one more step of it. -/
def History.extend (history : History) (client : Client) (step : Step) : History where
  doings := history.doings ++ client.doing?.toList
  puts := history.puts ++ entered step.transfer
  takes := history.takes ++ departed step.transfer
  log := history.log ++ step.log

/-- A step of a thread is added to its history. -/
theorem historyOf_own {thread : Nat} {records : List (Record Session Nat Event)}
    {session : Session} {client : Client} {step : Step}
    (there : session.clients[thread]? = some client) :
    historyOf thread (records ++ [⟨thread, session, step.events thread⟩]) =
      (historyOf thread records).extend client step := by
  cases doing : client.doing? <;>
    simp [historyOf, History.extend, observed, ofThread_append, ofThread_map_self, there, doing]

/-- A step of another thread is not. -/
theorem historyOf_other {thread other : Nat} (different : other ≠ thread)
    {records : List (Record Session Nat Event)} {session : Session} {step : Step} :
    historyOf thread (records ++ [⟨other, session, step.events other⟩]) =
      historyOf thread records := by
  simp [historyOf, observed, ofThread_append, ofThread_map_ne different, different]

/-- A property of a thread and its history that its own steps keep, and that lasts while others
move: the flag and the mark, once they are set, stay. -/
structure Kept (thread : Nat) (holds : History → Queue Nat String → Client → Prop) : Prop where
  own : ∀ {history queue client pick step}, holds history queue client →
    client.call.Grounded queue → client.step queue thread pick = some step →
    holds (history.extend client step) step.queue step.client
  others : ∀ {history queue next client}, holds history queue client →
    (queue.cancelled = true → next.cancelled = true) →
    (queue.ended = true → next.ended = true) → holds history next client

/-- What holds of a session on record of which one thread has this property. -/
structure Told (thread : Nat) (holds : History → Queue Nat String → Client → Prop)
    (records : List (Record Session Nat Event)) (session : Session) : Prop where
  accounted : Accounted (observed records) session
  held : ∃ client, session.clients[thread]? = some client ∧
    holds (historyOf thread records) session.queue client

theorem Kept.step {thread mover pick : Nat} {holds : History → Queue Nat String → Client → Prop}
    (kept : Kept thread holds) {before seen : List (Record Session Nat Event)}
    {session next : Session} (told : Told thread holds before session)
    (moved : system.recorded.step mover pick session = some (next, seen)) :
    Told thread holds (before ++ seen) next := by
  rcases step_of_recorded moved with ⟨events, recorded, rfl⟩
  have accounted := told.accounted.step recorded
  rcases step_eq_some recorded with ⟨moving, step, found, stepped, rfl, rfl⟩
  refine ⟨by simpa [observed] using accounted, ?_⟩
  rcases told.held with ⟨client, there, held⟩
  by_cases same : mover = thread
  · subst same
    cases there.symm.trans found
    rcases List.getElem?_eq_some_iff.mp there with ⟨inside, -⟩
    have ground := (told.accounted.consistent.fits mover).ground
    simp only [calls, there] at ground
    refine ⟨step.client, List.getElem?_set_self inside, ?_⟩
    rw [historyOf_own there]
    exact kept.own held ground stepped
  · have advances := Client.advances stepped
    refine ⟨client, (List.getElem?_set_ne same).trans there, ?_⟩
    rw [historyOf_other same]
    exact kept.others held advances.cancelled_mono advances.ended_mono

/-- What is kept, and holds of a thread at its start, holds of it in every run. -/
theorem Kept.along {thread : Nat} {holds : History → Queue Nat String → Client → Prop}
    (kept : Kept thread holds) {capacity : Count} (positive : 0 < capacity.toNat)
    {tasks : List Task} {task : Task} (given : tasks[thread]? = some task)
    (start : ∀ queue, holds {} queue (.start task))
    {records : List (Record Session Nat Event)} {last : Session}
    (run : system.recorded.Run (opening capacity.toNat tasks) records last) :
    Told thread holds records last := by
  have opened : Told thread holds [] (opening capacity.toNat tasks) :=
    ⟨.opening positive tasks, .start task, by simp [opening, given], start _⟩
  exact run.keeps opened fun _ _ _ _ _ _ told moved => kept.step told moved

/-! ## What a thread came to -/

deriving instance DecidableEq for Outcome

theorem Client.eq_of_outcome? {client : Client} {outcome : Outcome}
    (came : client.outcome? = some outcome) : client = .ended outcome := by
  unfold outcome? at came
  split at came <;> cases came
  rfl

/-- A thread that has come to something is at its end. -/
theorem ended_of_outcome? {session : Session} {thread : Nat} {outcome : Outcome}
    (came : session.clients[thread]?.bind Client.outcome? = some outcome) :
    session.clients[thread]? = some (.ended outcome) := by
  rcases Option.bind_eq_some_iff.mp came with ⟨client, there, came⟩
  rw [there, client.eq_of_outcome? came]

end Session

end LineTally
