import LineTally.Proofs.Session.History
import Mathlib.Data.List.Induction

/-!
# What a consumer has taken when it returns

Each line that leaves the queue leaves it by a pop of one thread, and is in the hands of that thread
until the pop returns it.  So the lines, in the order in which they left, are shared out among the
threads.  A consumer tells of its share what it counted: every line, or nothing if the predicate
gave up on one of them.  That line is the last it took, so those behind it are left to the others.
-/

namespace LineTally

open Queue LineTally.System

/-! ## Lines that are handed over -/

/-- What has been taken from the queue in a call and is still to be returned. -/
def Queue.Call.inHand {α : Type} : Call α → List α
  | .pop place => place.taken
  | _ => []

theorem Queue.Call.Idle.inHand_eq_nil {α : Type} {call : Call α} (idle : call.Idle) :
    call.inHand = [] := by
  cases idle <;> rfl

/-- A step outside of a pop leaves nothing in hand. -/
theorem Queue.Advances.inHand_eq_nil {ι α : Type} {queue next : Queue ι α} {me : ι}
    {before after : Call α} {transfer : Option (Transfer α)}
    (advances : Advances me queue before transfer next after)
    (elsewhere : ∀ pop, before ≠ .pop pop) : after.inHand = [] := by
  rcases advances with ⟨between, turn, leads⟩
  have nothing : between.inHand = [] := by
    cases turn with
    | stays =>
        cases before with
        | pop pop => exact absurd rfl (elsewhere pop)
        | _ => rfl
    | popEnters | popReenters | popFindsNone | popGoesOn | popSleeps | popCancelled | popCleared
    | popDrained | popTakes | popFaults => exact absurd rfl (elsewhere _)
    | _ => rfl
  rcases leads with rfl | ⟨-, idle⟩
  · exact nothing
  · exact idle.inHand_eq_nil

theorem Queue.Acting.call_ne_pop {α : Type} (acting : Acting) (place : Pop α) :
    (acting.call : Call α) ≠ .pop place := by
  cases acting <;> simp [Acting.call]

/-- What an action writes to the log is no error. -/
theorem Queue.Acting.log_errors {ι α : Type} {queue : Queue ι α} {me : ι} {acting : Acting}
    {acted : Acted ι α} (stepped : acting.step queue me = some acted) :
    acted.log.filter (·.level = .error) = [] := by
  cases acting with
  | raisingFlag =>
      cases stepped
      rfl
  | cancelling call | ending call =>
      rcases Option.map_eq_some_iff.mp stepped with ⟨move, -, rfl⟩
      cases move.progress <;> rfl
  | shuttingDown call =>
      rcases Option.map_eq_some_iff.mp stepped with ⟨move, -, rfl⟩
      cases move.progress with
      | «at» call => rfl
      | returned first => cases first <;> rfl

namespace Session

/-- The line that a pop returned, if it returned one. -/
def Doing.popped? : Doing → Option String
  | .popped (.ok (some line)) => some line
  | _ => none

/-- The lines that the pops of a thread returned to it. -/
def History.popped (history : History) : List String :=
  history.doings.filterMap Doing.popped?

/-- The errors that a thread wrote to the log. -/
def History.errors (history : History) : List LogLine :=
  history.log.filter (·.level = .error)

theorem Doing.popped?_popped (result : PopResult String) :
    [Doing.popped result].filterMap Doing.popped? = PopResult.taken result := by
  rcases result with fault | (none | line) <;> rfl

/-- Outside of a pop nothing is taken, in hand, or handed over. -/
theorem Client.inHand_step_of_away {queue : Queue Nat String} {me pick : Nat} {client : Client}
    {step : Step} (stepped : client.step queue me pick = some step)
    (elsewhere : ∀ pop, client.call ≠ .pop pop)
    (silent : client.doing?.toList.filterMap Doing.popped? = []) :
    client.call.inHand ++ departed step.transfer =
      client.doing?.toList.filterMap Doing.popped? ++ step.client.call.inHand := by
  have advances := Client.advances stepped
  have empty : client.call.inHand = [] := by
    cases there : client.call with
    | pop place => exact absurd there (elsewhere place)
    | _ => rfl
  rw [empty, advances.departed_eq_nil elsewhere, silent, advances.inHand_eq_nil elsewhere]

/-- What a thread takes is in its hands until the pop returns it. -/
theorem Client.inHand_step {queue : Queue Nat String} {me pick : Nat} {client : Client}
    {step : Step} (stepped : client.step queue me pick = some step) :
    client.call.inHand ++ departed step.transfer =
      client.doing?.toList.filterMap Doing.popped? ++ step.client.call.inHand := by
  have away := Client.inHand_step_of_away stepped
  -- A thread is in a pop of its own or in one of the consumer's; elsewhere both sides are empty.
  cases client with
  | popping pop =>
      rcases Option.map_eq_some_iff.mp stepped with ⟨move, moved, rfl⟩
      rcases Pop.step_taken moved with
        ⟨-, ⟨next, progress, more⟩ | ⟨result, rfl, progress, none⟩⟩
      · have silent := Pop.result?_eq_none moved progress
        simp [progress, silent, Client.doing?, Client.call, Call.inHand, more]
      · simp [progress, none, Client.doing?, Client.call, Call.inHand, Pop.taken, Pop.result?,
          Doing.popped?_popped]
  | consuming index predicate consumer =>
      cases consumer with
      | popping counts pop =>
          rcases Option.map_eq_some_iff.mp stepped with ⟨taken, inner, rfl⟩
          rcases Option.map_eq_some_iff.mp inner with ⟨move, moved, rfl⟩
          rcases Pop.step_taken moved with
            ⟨-, ⟨next, progress, more⟩ | ⟨result, rfl, progress, none⟩⟩
          · have silent := Pop.result?_eq_none moved progress
            simp [progress, silent, Client.doing?, Client.call, Consumer.call, Call.inHand, more]
          · rcases result with fault | (nothing | line) <;>
              simp [progress, none, Consumer.afterPop, Consumer.fail, Consumer.succeed,
                Client.doing?, Client.call, Consumer.call, Call.inHand, Pop.taken, Pop.result?,
                Doing.popped?_popped]
      | testing counts line actions => exact away (by simp [Client.call, Consumer.call]) rfl
      | acting counts line actions inside => exact away (fun _ => inside.call_ne_pop _) rfl
      | finished tally => cases stepped
  | pushing push =>
      apply away (by simp [Client.call])
      cases push <;> rfl
  | reading reader =>
      cases reader with
      | pushing rest reading push =>
          apply away (by simp [Client.call, Reader.call])
          cases push <;> rfl
      | acting rest reading inside => exact away (fun _ => inside.call_ne_pop _) rfl
      | checking rest reading | asking rest reading | ending result call =>
          exact away (by simp [Client.call, Reader.call]) rfl
      | finished result => cases stepped
  | acting inside => exact away (fun _ => inside.call_ne_pop _) rfl
  | ended outcome => cases stepped

/-- What a thread has taken is what its pops have returned, and what is in its hands. -/
theorem taken_kept (thread : Nat) :
    Kept thread fun history _ client => history.takes = history.popped ++ client.call.inHand where
  own := by
    intro history queue client pick step held _ stepped
    have passes := Client.inHand_step stepped
    calc history.takes ++ departed step.transfer
        = history.popped ++ (client.call.inHand ++ departed step.transfer) := by
          rw [held, List.append_assoc]
      _ = (history.extend client step).popped ++ step.client.call.inHand := by
          rw [passes, History.popped, History.popped, History.extend, List.filterMap_append,
            List.append_assoc]
  others held _ _ := held

/-- What is taken is taken by one of the threads. -/
theorem taker_lt {tasks : List Task} {capacity : Nat} {events : List Event} {last : Session}
    (run : system.Run (opening capacity tasks) events last) :
    last.clients.length = tasks.length ∧ ∀ entry ∈ takes events, entry.1 < tasks.length := by
  induction run with
  | refl => exact ⟨List.length_map _, by simp [takes]⟩
  | tail thread pick _ moved ih =>
      rcases ih with ⟨number, inside⟩
      rcases step_eq_some moved with ⟨client, step, there, -, rfl, rfl⟩
      rcases List.getElem?_eq_some_iff.mp there with ⟨present, -⟩
      refine ⟨(List.length_set ..).trans number, ?_⟩
      intro entry member
      rw [takes_append, takes_events, List.mem_append] at member
      rcases member with early | now
      · exact inside entry early
      · rcases List.mem_map.mp now with ⟨item, -, rfl⟩
        exact number ▸ present

/-- All lines that left the queue are shared out, in the order in which they left it: each has gone
to one of the threads, and to each thread those that its pops have returned, and the one that a pop
is about to return. -/
structure SharedOut (records : List (Record Session Nat Event)) (last : Session) : Prop where
  order : (puts (observed records)).map Prod.snd =
    (takes (observed records)).map Prod.snd ++ last.queue.ring.toList
  present : ∀ entry ∈ takes (observed records), entry.1 < last.clients.length
  shares : ∀ (thread : Nat) (client : Client), last.clients[thread]? = some client →
    ofThread thread (takes (observed records)) =
      (historyOf thread records).popped ++ client.call.inHand

theorem sharedOut {capacity : Count} (positive : 0 < capacity.toNat) {tasks : List Task}
    {records : List (Record Session Nat Event)} {last : Session}
    (run : system.recorded.Run (opening capacity.toNat tasks) records last) :
    SharedOut records last := by
  have seen : system.Run (opening capacity.toNat tasks) (observed records) last :=
    run_iff_exists_recorded.mpr ⟨records, run, rfl⟩
  rcases taker_lt seen with ⟨number, inside⟩
  refine ⟨(accounted positive seen).items, number ▸ inside, ?_⟩
  intro thread client there
  rcases List.getElem?_eq_some_iff.mp there with ⟨present, -⟩
  have given := List.getElem?_eq_getElem (number ▸ present : thread < tasks.length)
  have start (queue : Queue Nat String) :
      ({} : History).takes = ({} : History).popped ++ (Client.start tasks[thread]).call.inHand :=
    (Client.start_idle _).inHand_eq_nil.symm
  rcases ((taken_kept thread).along positive given start run).held with ⟨other, found, held⟩
  cases there.symm.trans found
  exact held

end Session

/-! ## The tally of a consumer -/

/-- What is in the log of a worker that failed after so many lines. -/
def WorkerTally.lostNotice (index : Count) (number : Nat) : LogLine :=
  ⟨.error, s!"Worker {index} failed after {number} lines; its count is discarded"⟩

/-- What a consumer reports that has taken these lines and has written these errors to the log. -/
inductive WorkerTally.Reports (predicate : Predicate) (index : Count) :
    List String → List LogLine → WorkerTally → Prop where
  | counted {lines : List String} {counts : Counts} (of : counts.Of predicate lines) :
      Reports predicate index lines [] {
        index, matched := counts.matched, consumed := counts.consumed, failed := false }
  /-- The predicate gave up on the last line, or it is one more than can be counted. -/
  | lost {lines : List String} {line : String}
      (answers : ∀ earlier ∈ lines, predicate.Answers earlier)
      (reason : predicate.Answers line → lines.length + 1 = Count.limit) :
      Reports predicate index (lines ++ [line]) [lostNotice index lines.length] (.lost index)

/-- What a tally tells of the lines that a consumer took, and of the errors that it wrote to the
log. -/
structure WorkerTally.Tells (predicate : Predicate) (index : Count) (lines : List String)
    (errors : List LogLine) (tally : WorkerTally) : Prop where
  owner : tally.index = index
  /-- The predicate answered on all of them, and they can be counted: so they are. -/
  counted : (∀ line ∈ lines, predicate.Answers line) → lines.length < Count.limit →
    tally.failed = false ∧ tally.consumed.toNat = lines.length ∧
      tally.matched.toNat = lines.countP predicate.accepts ∧ errors = []
  /-- A line on which the predicate gave up is the last of them. -/
  gaveUp : ∀ line ∈ lines, ¬ predicate.Answers line → ∃ before, lines = before ++ [line] ∧
    (∀ earlier ∈ before, predicate.Answers earlier) ∧ tally = .lost index ∧
      errors = [lostNotice index before.length]
  /-- There is one more than can be counted. -/
  overflowed : (∀ line ∈ lines, predicate.Answers line) → Count.limit ≤ lines.length →
    lines.length = Count.limit ∧ tally = .lost index ∧
      errors = [lostNotice index (Count.limit - 1)]

theorem WorkerTally.Reports.tells {predicate : Predicate} {index : Count} {lines : List String}
    {errors : List LogLine} {tally : WorkerTally}
    (reports : tally.Reports predicate index lines errors) :
    tally.Tells predicate index lines errors := by
  cases reports with
  | @counted _ counts of =>
      refine ⟨rfl, fun _ _ => ⟨rfl, of.consumed, of.matched, rfl⟩, ?_, ?_⟩
      · intro line member not
        exact absurd (of.answers line member) not
      · intro _ many
        have below := counts.consumed.toNat_lt
        rw [of.consumed] at below
        omega
  | @lost before last answers reason =>
      have length : (before ++ [last]).length = before.length + 1 := by simp
      refine ⟨rfl, ?_, ?_, ?_⟩
      · intro all fits
        have full := reason (all last (by simp))
        omega
      · intro line member not
        rcases List.mem_append.mp member with early | late
        · exact absurd (answers line early) not
        · cases List.mem_singleton.mp late
          exact ⟨before, rfl, answers, rfl, rfl⟩
      · intro all many
        have full := reason (all last (by simp))
        refine ⟨length.trans full, rfl, ?_⟩
        rw [← full, Nat.add_sub_cancel]

/-- Counting one more line does not fault, unless there are as many lines as counts. -/
theorem Counts.Of.add_cases {predicate : Predicate} {lines : List String} {counts : Counts}
    (of : counts.Of predicate lines) {line : String} {matches? : Bool}
    (answer : (predicate line).answer = .ok matches?) :
    (∃ next, counts.add matches? = .ok next ∧ next.Of predicate (lines ++ [line])) ∨
      ∃ same, counts.add matches? = .error same ∧ same.consumed = counts.consumed ∧
        lines.length + 1 = Count.limit := by
  by_cases fits : lines.length + 1 < Count.limit
  · exact Or.inl (of.add answer fits)
  · have full : lines.length + 1 = Count.limit := by
      have below := counts.consumed.toNat_lt
      rw [of.consumed] at below
      omega
    right
    rcases Count.succ_cases counts.consumed with ⟨next, -, more⟩ | ⟨overflow, -⟩
    · have below := next.toNat_lt
      rw [more, of.consumed] at below
      exact absurd below fits
    · cases matched : (if matches? then counts.matched.succ else .ok counts.matched) with
      | error fault => exact ⟨counts, by simp [Counts.add, matched], rfl, full⟩
      | ok more =>
          exact ⟨{ counts with matched := more }, by simp [Counts.add, matched, overflow], rfl,
            full⟩

namespace Consumer

variable {predicate : Predicate} {index : Count} {taken : List String} {errors : List LogLine}

/-- Where a consumer is that has taken these lines and has written these errors to the log. -/
def Follows (predicate : Predicate) (index : Count) (taken : List String)
    (errors : List LogLine) : Consumer → Prop
  | .popping counts pop =>
      errors = [] ∧ ∃ lines, taken = lines ++ pop.taken ∧ counts.Of predicate lines
  | .testing counts line _ | .acting counts line _ _ =>
      errors = [] ∧ ∃ lines, taken = lines ++ [line] ∧ counts.Of predicate lines
  | .finished tally => tally.Reports predicate index taken errors

theorem follows_start (predicate : Predicate) (index : Count) :
    start.Follows predicate index [] [] :=
  ⟨rfl, [], rfl, .start predicate⟩

/-- A consumer that judges a line counts it, or gives up on it. -/
theorem follows_judge {queue : Queue Nat String} {lines : List String} {line : String}
    {counts : Counts} (of : counts.Of predicate lines) :
    (judge queue index counts (predicate line).answer).consumer.Follows predicate index
      (lines ++ [line])
      ((judge queue index counts (predicate line).answer).log.filter (·.level = .error)) := by
  have lost {same : Counts} (consumed : same.consumed = counts.consumed)
      (reason : predicate.Answers line → lines.length + 1 = Count.limit) :
      (WorkerTally.lost index).Reports predicate index (lines ++ [line])
        ([failureNotice index same].filter (·.level = .error)) := by
    have notice : failureNotice index same = WorkerTally.lostNotice index lines.length := by
      have number : toString same.consumed = toString lines.length :=
        congrArg toString ((congrArg Count.toNat consumed).trans of.consumed)
      rw [failureNotice, WorkerTally.lostNotice, number]
    rw [notice]
    exact .lost of.answers reason
  cases answer : (predicate line).answer with
  | error message =>
      apply lost rfl
      rintro ⟨matches?, answers⟩
      cases answer.symm.trans answers
  | ok matches? =>
      rcases of.add_cases answer with ⟨next, added, of⟩ | ⟨same, added, consumed, full⟩
      · simp only [judge, added]
        exact ⟨rfl, lines ++ [line], (List.append_nil _).symm, of⟩
      · simp only [judge, added]
        exact lost consumed fun _ => full

/-- A step keeps account of what is taken and of the errors in the log, as pops do not fault. -/
theorem Follows.step {queue : Queue Nat String} {me pick : Nat} {consumer : Consumer}
    {step : Step Nat} (follows : consumer.Follows predicate index taken errors)
    (stepped : consumer.step predicate index queue me pick = some step)
    (ground : consumer.call.Grounded queue) :
    step.consumer.Follows predicate index (taken ++ departed step.transfer)
      (errors ++ step.log.filter (·.level = .error)) := by
  cases consumer with
  | popping counts pop =>
      rcases follows with ⟨rfl, lines, rfl, of⟩
      rcases Option.map_eq_some_iff.mp stepped with ⟨move, moved, rfl⟩
      rcases Pop.step_taken moved with
        ⟨-, ⟨next, progress, more⟩ | ⟨result, rfl, progress, none⟩⟩
      · rw [progress]
        exact ⟨rfl, lines, by simp [more], of⟩
      · rw [progress]
        dsimp only
        rw [none, List.append_nil]
        rcases result with fault | (nothing | line)
        · exact ground.elim
        · simp only [Pop.taken, PopResult.taken, List.append_nil]
          exact .counted of
        · exact ⟨rfl, lines, rfl, of⟩
  | testing counts line actions =>
      rcases follows with ⟨rfl, lines, rfl, of⟩
      cases actions with
      | nil =>
          cases stepped
          rcases idle_judge queue index counts (predicate line).answer with ⟨-, nothing, -⟩
          rw [nothing, List.nil_append]
          simp only [departed, List.append_nil]
          exact follows_judge of
      | cons action actions =>
          cases stepped
          exact ⟨rfl, lines, List.append_nil _, of⟩
  | acting counts line actions inside =>
      rcases follows with ⟨rfl, lines, rfl, of⟩
      rcases Option.map_eq_some_iff.mp stepped with ⟨acted, moved, rfl⟩
      have quiet := Acting.log_errors moved
      cases progress : acted.progress <;> exact ⟨quiet, lines, List.append_nil _, of⟩
  | finished tally => cases stepped

end Consumer

namespace Session

/-- Where a thread is that consumes what is in the queue and has this history. -/
inductive Client.Consumes (predicate : Predicate) (index : Count) (history : History) :
    Client → Prop where
  | consuming {consumer : Consumer}
      (follows : consumer.Follows predicate index history.takes history.errors) :
      Consumes predicate index history (.consuming index predicate consumer)
  | returned {tally : WorkerTally}
      (reports : tally.Reports predicate index history.takes history.errors) :
      Consumes predicate index history (.ended (.consumed tally))

theorem Client.Consumes.kept (thread : Nat) (predicate : Predicate) (index : Count) :
    Kept thread fun history _ client => client.Consumes predicate index history where
  own := by
    intro history queue client pick step held ground stepped
    cases held with
    | returned => cases stepped
    | consuming follows =>
        rcases Option.map_eq_some_iff.mp stepped with ⟨moving, moved, rfl⟩
        have onwards := follows.step moved ground
        have errors : (history.log ++ moving.log).filter (·.level = .error) =
            history.errors ++ moving.log.filter (·.level = .error) := List.filter_append ..
        rw [← errors] at onwards
        cases there : moving.consumer with
        | finished tally =>
            rw [there] at onwards
            exact .returned onwards
        | popping counts pop | testing counts line actions | acting counts line actions inside =>
            rw [there] at onwards
            exact .consuming onwards
  others held _ _ := held

/-- What comes behind the last of what a thread did was done by others. -/
theorem exists_behind {thread : Nat} {done : List (Nat × String)} {before : List String}
    {line : String} (share : ofThread thread done = before ++ [line]) :
    ∃ earlier later, done = earlier ++ (thread, line) :: later ∧
      ofThread thread earlier = before ∧ ∀ entry ∈ later, entry.1 ≠ thread := by
  induction done using List.reverseRecOn with
  | nil => simp [ofThread] at share
  | append_singleton done entry ih =>
      rcases entry with ⟨owner, text⟩
      rw [ofThread_append] at share
      by_cases own : owner = thread
      · subst own
        have last : ofThread owner [(owner, text)] = [text] := ofThread_map_self owner [text]
        rw [last] at share
        rcases List.append_inj' share rfl with ⟨rfl, same⟩
        cases same
        exact ⟨done, [], by simp, rfl, by simp⟩
      · have none : ofThread thread [(owner, text)] = [] := ofThread_map_ne own [text]
        rw [none, List.append_nil] at share
        rcases ih share with ⟨earlier, later, rfl, same, others⟩
        refine ⟨earlier, later ++ [(owner, text)], by simp, same, ?_⟩
        intro entry member
        rcases List.mem_append.mp member with before | last
        · exact others entry before
        · exact List.mem_singleton.mp last ▸ own

/-- Along every run the lines that left the queue are shared out among the threads, in the order in
which they were put.  The tally of each consumer that has returned is that of its own share.  If the
predicate gave up on a line of it, that line is the last of the share, and those behind it have been
taken by others since, or are still in the queue. -/
theorem tally_is_of_own_share (capacity : Count) (positive : 0 < capacity.toNat)
    (tasks : List Task) (records : List (Record Session Nat Event)) (last : Session)
    (run : system.recorded.Run (opening capacity.toNat tasks) records last) :
    SharedOut records last ∧
      ∀ (thread : Nat) (index : Count) (predicate : Predicate) (tally : WorkerTally),
        tasks[thread]? = some (.consume index predicate) →
        last.clients[thread]? = some (.ended (.consumed tally)) →
        let history := historyOf thread records
        ofThread thread (takes (observed records)) = history.popped ∧
          tally.Tells predicate index history.popped history.errors ∧
          ∀ line ∈ history.popped, ¬ predicate.Answers line →
            ∃ earlier later, takes (observed records) = earlier ++ (thread, line) :: later ∧
              (∀ entry ∈ later, entry.1 ≠ thread) ∧
              (puts (observed records)).map Prod.snd =
                earlier.map Prod.snd ++ line :: (later.map Prod.snd ++ last.queue.ring.toList) := by
  have sharedOut := sharedOut positive run
  refine ⟨sharedOut, ?_⟩
  intro thread index predicate tally given returned history
  have share : history.takes = history.popped :=
    (sharedOut.shares thread _ returned).trans (List.append_nil _)
  have told := (Client.Consumes.kept thread predicate index).along positive given
    (fun _ => .consuming (Consumer.follows_start predicate index)) run
  rcases told.held with ⟨client, there, consumes⟩
  cases returned.symm.trans there
  cases consumes with
  | returned reports =>
      have tells : tally.Tells predicate index history.popped history.errors :=
        share ▸ reports.tells
      refine ⟨share, tells, ?_⟩
      intro line member not
      rcases tells.gaveUp line member not with ⟨before, whole, -⟩
      rcases exists_behind (share.trans whole) with ⟨earlier, later, delivered, -, others⟩
      refine ⟨earlier, later, delivered, others, ?_⟩
      rw [sharedOut.order, delivered]
      simp

/-- The predicate gives up on the second line, and the third is left to another consumer. -/
theorem tally_is_of_own_share_of_two :
    let predicate : Predicate := fun line => {
      answer := if line = "bad" then .error "gone" else .ok true }
    let settled := system.recorded.settle (fun session => List.range session.clients.length) 60
      (opening 3 [.push "a", .push "bad", .push "b", .consume 0 predicate, .consume 1 predicate,
        .act .endStream])
    settled.1.clients[3]? = some (.ended (.consumed (.lost 0))) ∧
      (historyOf 3 settled.2).popped = ["a", "bad"] ∧
      (historyOf 3 settled.2).errors = [WorkerTally.lostNotice 0 1] ∧
      takes (observed settled.2) = [(3, "a"), (3, "bad"), (4, "b")] ∧
      ∃ earlier later, takes (observed settled.2) = earlier ++ (3, "bad") :: later ∧
        ∀ entry ∈ later, entry.1 ≠ 3 := by
  intro predicate settled
  have returned : settled.1.clients[3]? = some (.ended (.consumed (.lost 0))) :=
    ended_of_outcome? (by decide +kernel)
  have popped : (historyOf 3 settled.2).popped = ["a", "bad"] := by decide +kernel
  have delivered : takes (observed settled.2) = [(3, "a"), (3, "bad"), (4, "b")] := by
    decide +kernel
  have not : ¬ predicate.Answers "bad" := by
    rintro ⟨matches?, answer⟩
    cases answer
  rcases (tally_is_of_own_share ⟨3, by decide⟩ (by decide) _ settled.2 settled.1
    (system.recorded.run_settle ..)).2 3 0 predicate (.lost 0) rfl returned with
    ⟨-, tells, behind⟩
  have member : "bad" ∈ (historyOf 3 settled.2).popped := by simp [popped]
  rcases tells.gaveUp "bad" member not with ⟨before, whole, -, -, errors⟩
  have length : before.length = 1 := by
    have same := congrArg List.length (popped.symm.trans whole)
    simpa using same.symm
  rcases behind "bad" member not with ⟨earlier, later, taken, others, -⟩
  exact ⟨returned, popped, length ▸ errors, delivered, earlier, later, taken, others⟩

end Session

end LineTally
