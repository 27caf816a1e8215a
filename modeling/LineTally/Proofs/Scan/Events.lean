import LineTally.Proofs.Scan.Calls

/-!
# What is to be observed of a scan

Besides the lines on their way, three things are observed here: what the sink is told, with which
tally a worker stopped, and how often the source was asked.  Each of them comes from one kind of
step of one kind of thread; all other steps are plain.
-/

namespace LineTally.Scan

open Queue

/-- The sink is called. -/
def Event.isSinkCall : Event → Bool
  | .reported .. | .sourceFailed _ => true
  | _ => false

/-- What the sink was told, in order. -/
def sinkCalls (events : List Event) : List Event :=
  events.filter Event.isSinkCall

/-- The tallies with which a worker stopped consuming, in order. -/
def stops (worker : Nat) (events : List Event) : List WorkerTally :=
  events.filterMap fun event =>
    match event with
    | .stopped index tally => if index = worker then some tally else none
    | _ => none

/-- How often the source was asked to go on. -/
def asks (events : List Event) : Nat :=
  events.count .asked

@[simp] theorem sinkCalls_append (before after : List Event) :
    sinkCalls (before ++ after) = sinkCalls before ++ sinkCalls after :=
  List.filter_append ..

@[simp] theorem stops_append (worker : Nat) (before after : List Event) :
    stops worker (before ++ after) = stops worker before ++ stops worker after :=
  List.filterMap_append

@[simp] theorem asks_append (before after : List Event) :
    asks (before ++ after) = asks before + asks after :=
  List.count_append

/-- What is to be observed in these events: how often the source was asked, what the sink was told,
and with which tallies each worker stopped. -/
structure Observed (events : List Event) (asked : Nat) (told : List Event)
    (stopped : Nat → List WorkerTally) : Prop where
  asks : asks events = asked
  sinkCalls : sinkCalls events = told
  stops : ∀ index, stops index events = stopped index

/-- More may be observed behind. -/
theorem Observed.append {events more : List Event} {asked asked' : Nat} {told told' : List Event}
    {stopped stopped' : Nat → List WorkerTally} (first : Observed events asked told stopped)
    (further : Observed more asked' told' stopped') :
    Observed (events ++ more) (asked + asked') (told ++ told')
      fun index => stopped index ++ stopped' index where
  asks := by rw [asks_append, first.asks, further.asks]
  sinkCalls := by rw [sinkCalls_append, first.sinkCalls, further.sinkCalls]
  stops index := by rw [stops_append, first.stops, further.stops]

/-! ## Plain events -/

/-- The sink is not called, no worker stops, and the source is not asked. -/
def Event.isPlain : Event → Bool
  | .asked | .stopped .. | .reported .. | .sourceFailed _ => false
  | _ => true

/-- All these events are plain. -/
def Plain (events : List Event) : Prop :=
  ∀ event ∈ events, event.isPlain = true

namespace Plain

variable {events : List Event}

theorem sinkCalls_eq (plain : Plain events) : sinkCalls events = [] := by
  apply List.filter_eq_nil_iff.mpr
  intro event member
  have quiet := plain event member
  cases event with
  | put | took | judged | shutDown | logged => simp [Event.isSinkCall]
  | asked | stopped | reported | sourceFailed => cases quiet

theorem stops_eq (plain : Plain events) (worker : Nat) : stops worker events = [] := by
  apply List.filterMap_eq_nil_iff.mpr
  intro event member
  have quiet := plain event member
  cases event with
  | put | took | judged | shutDown | logged => rfl
  | asked | stopped | reported | sourceFailed => cases quiet

theorem asks_eq (plain : Plain events) : asks events = 0 := by
  apply List.count_eq_zero.mpr
  intro member
  cases plain .asked member

/-- There is nothing to be observed in plain events. -/
theorem observed (plain : Plain events) : Observed events 0 [] fun _ => [] :=
  ⟨plain.asks_eq, plain.sinkCalls_eq, plain.stops_eq⟩

theorem append {more : List Event} (plain : Plain events) (further : Plain more) :
    Plain (events ++ more) := by
  intro event member
  rcases List.mem_append.mp member with early | late
  · exact plain event early
  · exact further event late

theorem nil : Plain [] := nofun

theorem singleton {event : Event} (plain : event.isPlain = true) : Plain [event] := by
  intro other member
  rw [List.mem_singleton.mp member]
  exact plain

theorem logged (log : List LogLine) : Plain (log.map .logged) := by
  intro event member
  rcases List.mem_map.mp member with ⟨line, -, rfl⟩
  rfl

theorem ofTransfer (worker : Nat) (transfer : Option (Transfer String)) :
    Plain (transfer.map (Event.ofTransfer worker)).toList := by
  rcases transfer with none | (item | item)
  · exact nil
  · exact singleton rfl
  · exact singleton rfl

theorem consumerEvents (index : Nat) (before : Consumer) (step : Consumer.Step Thread) :
    Plain (Worker.consumerEvents index before step) := by
  unfold Worker.consumerEvents
  refine (((ofTransfer _ _).append ?_).append (logged _)).append ?_
  · split <;> first | exact nil | exact singleton rfl
  · split <;> first | exact nil | exact singleton rfl

end Plain

/-! ## The events of a step, thread by thread -/

/-- How often the reader asks its source in its next step. -/
def asking : Reader → Nat
  | .asking .. => 1
  | _ => 0

/-- The reader asks its source, and neither tells the sink anything nor stops a worker. -/
theorem readerEvents_observed (before : Reader) (step : Reader.Step Thread) :
    Observed (readerEvents before step) (asking before) [] fun _ => [] := by
  have further (asked last : List Event) (plain : Plain last)
      (first : Observed asked (asking before) [] fun _ => []) :
      Observed (asked ++ (step.transfer.map (Event.ofTransfer 0)).toList ++
        step.log.map .logged ++ last) (asking before) [] fun _ => [] :=
    ((first.append (Plain.ofTransfer 0 step.transfer).observed).append
      (Plain.logged step.log).observed).append plain.observed
  unfold readerEvents
  cases before with
  | asking => exact further [.asked] [] .nil ⟨rfl, rfl, fun _ => rfl⟩
  | checking | pushing | ending | finished => exact further [] [] .nil Plain.nil.observed
  | acting =>
      refine further [] _ ?_ Plain.nil.observed
      split <;> first | exact .nil | exact .singleton rfl

/-- The tally with which a worker is about to stop. -/
def Worker.stopping : Worker → List WorkerTally
  | .consuming (.finished tally) => [tally]
  | _ => []

/-- What a worker is about to tell the sink. -/
def Worker.telling (number : Nat) : Worker → List Event
  | .reporting tally => [.reported number tally]
  | _ => []

/-- A worker that takes a step in its loop is not about to stop. -/
theorem Worker.stopping_of_step {predicate : Predicate} {index : Count}
    {queue : Queue Thread String} {me : Thread} {pick : Nat} {consumer : Consumer}
    {step : Consumer.Step Thread}
    (stepped : consumer.step predicate index queue me pick = some step) :
    (Worker.consuming consumer).stopping = [] := by
  cases consumer with
  | finished => cases stepped
  | popping | testing | acting => rfl

/-- A worker tells the sink what it reports, and its tally can be observed when it stops. -/
theorem Worker.Turn.observed {around : Surroundings} {shared next : Shared} {number : Count}
    {worker after : Worker} {events : List Event}
    (turn : Worker.Turn around shared number worker next after events) :
    Observed events 0 (worker.telling number.toNat)
      fun index => if index = number.toNat then worker.stopping else [] := by
  have quiet (plain : Plain events) (telling : worker.telling number.toNat = [])
      (stopping : worker.stopping = []) :
      Observed events 0 (worker.telling number.toNat)
        fun index => if index = number.toNat then worker.stopping else [] := by
    simpa [telling, stopping] using plain.observed
  cases turn with
  | finishes =>
      refine ⟨rfl, rfl, ?_⟩
      intro index
      by_cases mine : index = number.toNat
      · simp [stops, stopping, mine]
      · simp [stops, mine, Ne.symm mine]
  | consumes stepped => exact quiet (.consumerEvents _ _ _) rfl (stopping_of_step stepped)
  | reports | sinkFaults =>
      refine ⟨rfl, rfl, ?_⟩
      intro index
      simp [stops, stopping]
  | records => exact quiet (.logged _) rfl rfl
  | abandons | publishesAgain => exact quiet (.singleton rfl) rfl rfl
  | _ => exact quiet .nil rfl rfl

/-- What the coordinator is about to tell the sink. -/
def Coordinator.telling : Coordinator → List Event
  | .announcing reading => (reading.error.map .sourceFailed).toList
  | _ => []

/-- The coordinator tells the sink of the failure of the source. -/
theorem Coordinator.Turn.observed {state : State} {before after : Coordinator}
    {events : List Event} (turn : Turn state before after events) :
    Observed events 0 before.telling fun _ => [] := by
  cases turn with
  | losesReader | joinsDead => exact (Plain.singleton rfl).observed
  | @announces reading =>
      cases failed : reading.error <;> simp only [Coordinator.telling, failed]
      · exact Plain.nil.observed
      · exact ⟨rfl, rfl, fun _ => rfl⟩
  | _ => exact Plain.nil.observed

end LineTally.Scan
