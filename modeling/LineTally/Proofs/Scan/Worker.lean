import LineTally.Proofs.Consumer
import LineTally.Scan.Worker

/-!
# What a worker does

The steps of a worker, one by one: where it is, what is shared after the step, where it is then, and
what can be observed.  Only the loop of a worker, and a worker that cancels the queue, take part in
the calls of the queue.
-/

namespace LineTally.Scan

open Queue

/-! ## Lines on their way -/

/-- The lines that were put, in order. -/
def puts (events : List Event) : List String :=
  events.filterMap fun event =>
    match event with
    | .put line => some line
    | _ => none

/-- The lines that were taken, each with the worker that took it, in order. -/
def takes (events : List Event) : List (Nat × String) :=
  events.filterMap fun event =>
    match event with
    | .took worker line => some (worker, line)
    | _ => none

@[simp] theorem puts_append (before after : List Event) :
    puts (before ++ after) = puts before ++ puts after :=
  List.filterMap_append

@[simp] theorem takes_append (before after : List Event) :
    takes (before ++ after) = takes before ++ takes after :=
  List.filterMap_append

@[simp] theorem puts_logged (log : List LogLine) : puts (log.map .logged) = [] := by
  simp [puts]

@[simp] theorem takes_logged (log : List LogLine) : takes (log.map .logged) = [] := by
  simp [takes]

@[simp] theorem puts_ofTransfer (worker : Nat) (transfer : Option (Transfer String)) :
    puts (transfer.map (Event.ofTransfer worker)).toList = entered transfer := by
  rcases transfer with none | (item | item) <;> rfl

@[simp] theorem takes_ofTransfer (worker : Nat) (transfer : Option (Transfer String)) :
    takes (transfer.map (Event.ofTransfer worker)).toList =
      (departed transfer).map (worker, ·) := by
  rcases transfer with none | (item | item) <;> rfl

theorem puts_consumerEvents (index : Nat) (before : Consumer) (step : Consumer.Step Thread) :
    puts (Worker.consumerEvents index before step) = entered step.transfer := by
  unfold Worker.consumerEvents
  simp only [puts_append, puts_ofTransfer, puts_logged]
  split <;> split <;> simp [puts]

theorem takes_consumerEvents (index : Nat) (before : Consumer) (step : Consumer.Step Thread) :
    takes (Worker.consumerEvents index before step) =
      (departed step.transfer).map (index, ·) := by
  unfold Worker.consumerEvents
  simp only [takes_append, takes_ofTransfer, takes_logged]
  split <;> split <;> simp [takes]

/-- Where a worker is with regard to the queue. -/
def Worker.call : Worker → Call String
  | .consuming consumer => consumer.call
  | .cancelling call => .cancel call
  | _ => .away

namespace Worker

/-- A worker that leaves the rendezvous is the first and sums up, or ends. -/
theorem afterRendezvous_cases (index : Nat) (arrival : Arrival) :
    index = aggregator ∧ afterRendezvous index arrival = .aggregating ∨
      afterRendezvous index arrival = .ended := by
  cases arrival with
  | complete =>
      simp only [afterRendezvous]
      split
      next first => exact Or.inl ⟨first, rfl⟩
      next => exact Or.inr rfl
  | forfeited => exact Or.inr rfl

/-- What holds of a worker that sums up, and of one that has ended, holds of one that leaves the
rendezvous. -/
theorem afterRendezvous_of (property : Worker → Prop) (sums : property .aggregating)
    (ends : property .ended) (index : Nat) (arrival : Arrival) :
    property (afterRendezvous index arrival) := by
  rcases afterRendezvous_cases index arrival with ⟨-, same⟩ | same
  · exact same ▸ sums
  · exact same ▸ ends

/-- One step of a worker. -/
inductive Turn (around : Surroundings) (shared : Shared) (number : Count) :
    Worker → Shared → Worker → List Event → Prop where
  | finishes {tally : WorkerTally} :
      Turn around shared number (.consuming (.finished tally)) shared (.recording tally)
        [.stopped number.toNat tally]
  | consumes {pick : Nat} {consumer : Consumer} {step : Consumer.Step Thread}
      (stepped : consumer.step around.predicate number shared.queue (.worker number.toNat) pick =
        some step) :
      Turn around shared number (.consuming consumer) { shared with queue := step.queue }
        (.consuming step.consumer) (consumerEvents number.toNat consumer step)
  | records {tally : WorkerTally} :
      Turn around shared number (.recording tally)
        { shared with slots := (shared.slots.record tally).1 } .leaving
        ((shared.slots.record tally).2.map .logged)
  | leaves (more : shared.live ≠ 1) :
      Turn around shared number .leaving
        { shared with live := (shared.live + (Count.limit - 1)) % Count.limit } .arriving []
  | leavesLast (last : shared.live = 1) :
      Turn around shared number .leaving
        { shared with live := (shared.live + (Count.limit - 1)) % Count.limit } .probing []
  | findsEnd (ended : shared.queue.ended = true) :
      Turn around shared number .probing shared .arriving []
  | findsOpen (unended : shared.queue.ended = false) :
      Turn around shared number .probing shared .checking []
  | findsFlag (cancelled : shared.queue.cancelled = true) :
      Turn around shared number .checking shared .arriving []
  | abandons (clear : shared.queue.cancelled = false) :
      Turn around shared number .checking shared (.cancelling .raising)
        [.logged abandonedNotice]
  | cancels {call next : Cancel} {move : Move Thread String Cancel Bool}
      (stepped : call.step shared.queue (.worker number.toNat) = some move)
      (progress : move.progress = .at next) :
      Turn around shared number (.cancelling call) { shared with queue := move.queue }
        (.cancelling next) []
  | cancelled {call : Cancel} {first : Bool} {move : Move Thread String Cancel Bool}
      (stepped : call.step shared.queue (.worker number.toNat) = some move)
      (progress : move.progress = .returned first) :
      Turn around shared number (.cancelling call) { shared with queue := move.queue }
        .arriving []
  | comesLate {fault : Fault}
      (arrived : shared.rendezvous.arrive (.worker number.toNat) = .error fault) :
      Turn around shared number .arriving shared (.died fault) []
  | meets {rendezvous : Rendezvous Thread} {arrival : Arrival}
      (arrived : shared.rendezvous.arrive (.worker number.toNat) =
        .ok (rendezvous, some arrival)) :
      Turn around shared number .arriving { shared with rendezvous }
        (afterRendezvous number.toNat arrival) []
  | waits {rendezvous : Rendezvous Thread}
      (arrived : shared.rendezvous.arrive (.worker number.toNat) = .ok (rendezvous, none)) :
      Turn around shared number .arriving { shared with rendezvous } .waiting []
  | resumes {rendezvous : Rendezvous Thread} {arrival : Arrival}
      (resumed : shared.rendezvous.resume? (.worker number.toNat) =
        some (rendezvous, some arrival)) :
      Turn around shared number .waiting { shared with rendezvous }
        (afterRendezvous number.toNat arrival) []
  | waitsAgain {rendezvous : Rendezvous Thread}
      (resumed : shared.rendezvous.resume? (.worker number.toNat) = some (rendezvous, none)) :
      Turn around shared number .waiting { shared with rendezvous } .waiting []
  | sums {tally : Tally} (summed : shared.slots.aggregate = .ok tally) :
      Turn around shared number .aggregating shared (.reporting tally) []
  | sumFaults {fault : Fault} (summed : shared.slots.aggregate = .error fault) :
      Turn around shared number .aggregating shared (.died fault) []
  | reports {tally : Tally} (received : around.sink tally = none) :
      Turn around shared number (.reporting tally) shared (.publishing tally)
        [.reported number.toNat tally]
  | sinkFaults {tally : Tally} {fault : Fault} (received : around.sink tally = some fault) :
      Turn around shared number (.reporting tally) shared (.died fault)
        [.reported number.toNat tally]
  | publishes {tally : Tally} (unpublished : shared.published = none) :
      Turn around shared number (.publishing tally) { shared with published := some tally }
        .ended []
  | publishesAgain {tally earlier : Tally} (published : shared.published = some earlier) :
      Turn around shared number (.publishing tally) shared .ended
        [.logged ⟨.error, "Aggregate already published; keeping the first one"⟩]

theorem turn {around : Surroundings} {shared : Shared} {number : Count} {pick : Nat}
    {worker : Worker} {step : Worker.Step}
    (stepped : worker.step around shared number pick = some step) :
    Turn around shared number worker step.shared step.worker step.events := by
  cases worker with
  | consuming consumer =>
      cases consumer with
      | finished tally =>
          cases stepped
          exact .finishes
      | popping | testing | acting =>
          rcases Option.map_eq_some_iff.mp stepped with ⟨step, moved, rfl⟩
          exact .consumes moved
  | recording tally =>
      cases stepped
      exact .records
  | leaving =>
      cases stepped
      dsimp only
      split
      next last => exact .leavesLast last
      next more => exact .leaves more
  | probing =>
      simp only [Worker.step] at stepped
      split at stepped
      · cases stepped
      · cases stepped
        dsimp only
        split
        next ended => exact .findsEnd ended
        next unended => exact .findsOpen (by simpa using unended)
  | checking =>
      simp only [Worker.step] at stepped
      split at stepped
      next cancelled =>
        cases stepped
        exact .findsFlag cancelled
      next clear =>
        cases stepped
        exact .abandons (by simpa using clear)
  | cancelling call =>
      rcases Option.map_eq_some_iff.mp stepped with ⟨move, moved, rfl⟩
      cases progress : move.progress with
      | «at» next => exact .cancels moved progress
      | returned first => exact .cancelled moved progress
  | arriving =>
      simp only [Worker.step] at stepped
      split at stepped
      next fault arrived =>
        cases stepped
        exact .comesLate arrived
      next rendezvous arrival? arrived =>
        cases stepped
        cases arrival? with
        | some arrival => exact .meets arrived
        | none => exact .waits arrived
  | waiting =>
      rcases Option.map_eq_some_iff.mp stepped with ⟨⟨rendezvous, arrival?⟩, resumed, rfl⟩
      cases arrival? with
      | some arrival => exact .resumes resumed
      | none => exact .waitsAgain resumed
  | aggregating =>
      simp only [Worker.step] at stepped
      split at stepped
      next tally summed =>
        cases stepped
        exact .sums summed
      next fault summed =>
        cases stepped
        exact .sumFaults summed
  | reporting tally =>
      cases stepped
      dsimp only
      split
      next received => exact .reports received
      next fault received => exact .sinkFaults received
  | publishing tally =>
      simp only [Worker.step] at stepped
      split at stepped
      next unpublished =>
        cases stepped
        exact .publishes unpublished
      next earlier published =>
        cases stepped
        exact .publishesAgain published
  | ended => cases stepped
  | died fault => cases stepped

/-- A worker takes lines only in its loop, and puts none. -/
theorem Turn.advances {around : Surroundings} {shared next : Shared} {number : Count}
    {worker after : Worker} {events : List Event}
    (turn : Turn around shared number worker next after events) :
    ∃ transfer, Advances (.worker number.toNat) shared.queue worker.call transfer next.queue
        after.call ∧
      puts events = entered transfer ∧
      takes events = (departed transfer).map (number.toNat, ·) := by
  have arrives := afterRendezvous_of (·.call.Idle) .away .away number.toNat
  cases turn with
  | consumes stepped =>
      exact ⟨_, Consumer.advances stepped, puts_consumerEvents .., takes_consumerEvents ..⟩
  | cancels stepped progress =>
      have turn := (Cancel.turn stepped).1
      rw [progress] at turn
      exact ⟨none, turn.advances, rfl, rfl⟩
  | cancelled stepped progress =>
      have turn := (Cancel.turn stepped).1
      rw [progress] at turn
      exact ⟨none, turn.advances_to .away, rfl, rfl⟩
  | abandons => exact ⟨none, Call.Idle.away.advances .cancel, rfl, rfl⟩
  | meets | resumes => exact ⟨none, Call.Idle.away.advances (arrives _), rfl, rfl⟩
  | records => exact ⟨none, Call.Idle.away.advances .away, puts_logged _, takes_logged _⟩
  | _ => exact ⟨none, Call.Idle.away.advances .away, rfl, rfl⟩

end Worker

end LineTally.Scan
