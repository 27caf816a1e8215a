import LineTally.Proofs.Queue.Weight
import LineTally.Proofs.Scan.Outcome
import Mathlib.Tactic.Linarith

/-!
# A scan takes finitely many steps

Every thread of a scan has a weight: that of its place at the queue, and what it has still to do
behind.  A line weighs on the reader as long as it is in the source, then on the queue, and then on
the worker that took it.  Every step takes something off the weight of all threads and the queue
together, also when others are woken by it, of whom there are the reader and the workers at most.
-/

namespace LineTally

open Queue

/-! ## What the threads have still to do -/

/-- What a consumer has to do about a line that it has taken. -/
def Predicate.toil (predicate : Predicate) (crowd : Nat) (line : String) : Nat :=
  (crowd + 5) * (predicate line).actions.length + 6

/-- What the reader has to do about what its source does. -/
def Entry.weight (predicate : Predicate) (crowd : Nat) : Entry → Nat
  | .line text => predicate.toil crowd text + 2 * crowd + 7
  | .act _ => crowd + 5
  | .failure _ | .fault _ => 0

section Weights

variable {ι : Type} [DecidableEq ι]

def Consumer.weight (predicate : Predicate) (crowd : Nat) (queue : Queue ι String) (me : ι) :
    Consumer → Nat
  | .popping _ pop => (Call.pop pop).weight crowd (predicate.toil crowd) queue me
  | .testing _ _ actions => (crowd + 5) * actions.length + 6
  | .acting _ _ actions inside =>
      (crowd + 5) * actions.length + 6 +
        inside.call.weight crowd (predicate.toil crowd) queue me
  | .finished _ => 0

/-- What the reader has to do when it asks a source. -/
def Reader.burden (predicate : Predicate) (crowd : Nat) (source : List Entry) : Nat :=
  (source.map (Entry.weight predicate crowd)).sum + crowd + 4

def Reader.weight (predicate : Predicate) (crowd : Nat) (queue : Queue ι String) (me : ι) :
    Reader → Nat
  | .checking rest _ => burden predicate crowd rest + 1
  | .asking rest _ => burden predicate crowd rest
  | .acting rest _ inside =>
      burden predicate crowd rest + inside.call.weight crowd (predicate.toil crowd) queue me
  | .pushing rest _ push =>
      burden predicate crowd rest + 1 +
        (Call.push push).weight crowd (predicate.toil crowd) queue me
  | .ending _ mark => (Call.endStream mark).weight crowd (predicate.toil crowd) queue me
  | .finished _ => 0

variable {predicate : Predicate} {crowd : Nat} {queue next : Queue ι String} {me : ι}

theorem Queue.Action.weight_start_le (action : Action) (toil : String → Nat) (me : ι) :
    (action.start.call : Call String).weight crowd toil queue me ≤ crowd + 4 := by
  cases action <;> simp [Action.start, Acting.call, Call.weight]

/-- A thread that acts on a queue does not sleep in it. -/
theorem Queue.Acting.weight_eq (inside : Acting) (toil : String → Nat) (me : ι) :
    (inside.call : Call String).weight crowd toil next me =
      (inside.call : Call String).weight crowd toil queue me := by
  cases inside with
  | cancelling call | shuttingDown call => cases call <;> rfl
  | ending call => cases call <;> rfl
  | raisingFlag => rfl

/-- What a consumer has to do after a pop, it had to do about what it took. -/
theorem Consumer.weight_afterPop_le {index : Count} (counts : Counts)
    (result : PopResult String) :
    (afterPop predicate queue index counts result).consumer.weight predicate crowd next me ≤
      ((PopResult.taken result).map (predicate.toil crowd)).sum := by
  cases result with
  | error fault => exact Nat.zero_le _
  | ok found =>
      cases found with
      | none => exact Nat.zero_le _
      | some line =>
          simp [afterPop, Consumer.weight, PopResult.taken, Predicate.toil]

theorem Consumer.weight_judge_le {index : Count} (counts : Counts)
    (answer : Except String Bool) :
    (judge queue index counts answer).consumer.weight predicate crowd next me ≤ 5 := by
  unfold judge
  split
  · exact Nat.zero_le _
  · split
    · exact Nat.zero_le _
    · exact Nat.le_refl _

theorem Consumer.eases {index : Count} {pick : Nat} {consumer : Consumer} {step : Step ι}
    (stepped : consumer.step predicate index queue me pick = some step)
    (valid : queue.ring.Valid) (fits : Fits queue me consumer.call) :
    Eases crowd (predicate.toil crowd) queue step.queue (consumer.weight predicate crowd queue me)
      (step.consumer.weight predicate crowd step.queue me) := by
  cases consumer with
  | popping counts pop =>
      rcases Option.map_eq_some_iff.mp stepped with ⟨move, moved, rfl⟩
      have eases : Eases crowd (predicate.toil crowd) queue move.queue _ _ :=
        Pop.eases moved valid fits
      cases progress : move.progress with
      | «at» pop =>
          rw [progress] at eases
          exact eases
      | returned result =>
          rcases Pop.eq_of_returned moved progress with ⟨rfl, given⟩
          have light : (afterPop predicate move.queue index counts result).consumer.weight
              predicate crowd move.queue me ≤
                ((PopResult.taken result).map (predicate.toil crowd)).sum :=
            Consumer.weight_afterPop_le counts result
          rcases idle_afterPop predicate move.queue index counts result with ⟨same, -⟩
          dsimp only
          rw [same]
          refine ⟨0, Or.inr ⟨rfl, ?_, ?_⟩, ?_⟩
          · simp [given, unlock]
          · simp [given, unlock]
          · simp only [Consumer.weight, Call.weight, given, hoard, unlock] at light ⊢
            omega
  | testing counts line actions =>
      cases actions with
      | nil =>
          cases stepped
          rcases idle_judge queue index counts (predicate line).answer with ⟨same, -, -⟩
          rw [same]
          apply eases_of_lt
          refine Nat.lt_of_le_of_lt (Consumer.weight_judge_le counts _) ?_
          simp [Consumer.weight]
      | cons action actions =>
          cases stepped
          apply eases_of_lt
          have light : action.start.call.weight crowd (predicate.toil crowd) queue me ≤ _ :=
            action.weight_start_le (predicate.toil crowd) me
          simp only [Consumer.weight, List.length_cons, Nat.mul_add, Nat.mul_one]
          omega
  | acting counts line actions inside =>
      rcases Option.map_eq_some_iff.mp stepped with ⟨acted, moved, rfl⟩
      have eases : Eases crowd (predicate.toil crowd) queue acted.queue _ _ :=
        Acting.eases moved valid fits
      cases progress : acted.progress with
      | «at» inside =>
          rw [progress] at eases
          apply eases.mono
          simp only [Consumer.weight, Progress.call]
          omega
      | returned first =>
          rw [progress] at eases
          apply eases.mono
          simp only [Consumer.weight, Progress.call, Call.weight]
          omega
  | finished tally => cases stepped

theorem Reader.le_burden (predicate : Predicate) (crowd : Nat) (rest : List Entry) :
    crowd + 4 ≤ burden predicate crowd rest := by
  simp only [burden]
  omega

theorem Reader.burden_cons (predicate : Predicate) (crowd : Nat) (entry : Entry)
    (rest : List Entry) : burden predicate crowd (entry :: rest) =
      entry.weight predicate crowd + burden predicate crowd rest := by
  simp only [burden, List.map_cons, List.sum_cons, Nat.add_assoc]

theorem Reader.weight_stop (result : Except Fault Reading) :
    (stop result).weight predicate crowd queue me = crowd + 3 := rfl

theorem Reader.weight_receive_le (rest : List Entry) (reading : Reading) (text : String) :
    (receive rest reading text).weight predicate crowd queue me <
      burden predicate crowd (.line text :: rest) := by
  have least := le_burden predicate crowd rest
  rw [burden_cons, Entry.weight]
  unfold receive
  split
  · rw [weight_stop]
    omega
  · dsimp only
    split
    · split
      · rw [weight_stop]
        omega
      · simp only [Reader.weight]
        omega
    · simp only [Reader.weight, Call.weight]
      omega

theorem Reader.weight_afterPush_le (rest : List Entry) (reading : Reading) (result : PushResult) :
    (afterPush rest reading result).1.weight predicate crowd queue me ≤
      burden predicate crowd rest + 1 := by
  have least := le_burden predicate crowd rest
  unfold afterPush
  split
  · split
    · exact Nat.le_refl _
    · rw [weight_stop]
      omega
  all_goals
    rw [weight_stop]
    omega

/-- Whatever the source does, the reader has less to do then. -/
theorem Reader.weight_ask_lt (rest : List Entry) (reading : Reading) :
    (ask queue rest reading).reader.weight predicate crowd queue me <
      (asking rest reading).weight predicate crowd queue me := by
  have stops (result : Except Fault Reading) : (stop result).weight predicate crowd queue me <
      burden predicate crowd rest := by
    have least := le_burden predicate crowd rest
    rw [weight_stop]
    omega
  cases rest with
  | nil => exact stops _
  | cons entry rest =>
      cases entry with
      | line text => exact weight_receive_le rest reading text
      | failure message | fault message => exact stops _
      | act action =>
          have light : action.start.call.weight crowd (predicate.toil crowd) queue me ≤ _ :=
            action.weight_start_le (predicate.toil crowd) me
          simp only [ask, Reader.weight, burden_cons, Entry.weight]
          omega

theorem Reader.eases {pick : Nat} {reader : Reader} {step : Step ι}
    (stepped : reader.step queue me pick = some step) (valid : queue.ring.Valid)
    (fits : Fits queue me reader.call) :
    Eases crowd (predicate.toil crowd) queue step.queue (reader.weight predicate crowd queue me)
      (step.reader.weight predicate crowd step.queue me) := by
  cases reader with
  | checking rest reading =>
      have least := le_burden predicate crowd rest
      simp only [Reader.step] at stepped
      split at stepped
      · cases stepped
        apply eases_of_lt
        rw [weight_stop]
        simp only [Reader.weight]
        omega
      · cases stepped
        apply eases_of_lt
        simp [Reader.weight]
  | asking rest reading =>
      cases stepped
      rcases idle_ask queue rest reading with ⟨same, -⟩
      rw [same]
      exact eases_of_lt (weight_ask_lt rest reading)
  | acting rest reading inside =>
      rcases Option.map_eq_some_iff.mp stepped with ⟨acted, moved, rfl⟩
      have eases : Eases crowd (predicate.toil crowd) queue acted.queue _ _ :=
        Acting.eases moved valid fits
      cases progress : acted.progress with
      | «at» inside =>
          rw [progress] at eases
          apply eases.mono
          simp only [Reader.weight, Progress.call]
          omega
      | returned first =>
          rw [progress] at eases
          apply eases.mono
          simp only [Reader.weight, Progress.call, Call.weight]
          omega
  | pushing rest reading push =>
      rcases Option.map_eq_some_iff.mp stepped with ⟨move, moved, rfl⟩
      have eases : Eases crowd (predicate.toil crowd) queue move.queue _ _ :=
        Push.eases moved valid fits
      cases progress : move.progress with
      | «at» push =>
          rw [progress] at eases
          apply eases.mono
          simp only [Reader.weight, Progress.call]
          omega
      | returned result =>
          rw [progress] at eases
          apply eases.mono
          have light : (afterPush rest reading result).1.weight predicate crowd move.queue me ≤ _ :=
            weight_afterPush_le rest reading result
          change (afterPush rest reading result).1.weight predicate crowd move.queue me +
              (Call.push push).weight crowd (predicate.toil crowd) queue me ≤
            burden predicate crowd rest + 1 +
              (Call.push push).weight crowd (predicate.toil crowd) queue me + 0
          omega
  | ending result mark =>
      rcases Option.map_eq_some_iff.mp stepped with ⟨move, moved, rfl⟩
      have eases : Eases crowd (predicate.toil crowd) queue move.queue _ _ :=
        EndStream.eases moved valid fits
      cases progress : move.progress <;>
      · rw [progress] at eases
        exact eases
  | finished result => cases stepped

/-! ## Woken threads -/

theorem Reader.weight_le (reader : Reader) (me : ι) :
    reader.weight predicate crowd next me ≤ reader.weight predicate crowd queue me + 3 ∧
      (queue.writers ⊆ next.writers → queue.readers ⊆ next.readers →
        reader.weight predicate crowd next me ≤ reader.weight predicate crowd queue me) := by
  have woken (call : Call String) : call.weight crowd (predicate.toil crowd) next me ≤
      call.weight crowd (predicate.toil crowd) queue me + 3 := call.weight_le me
  have asleep (call : Call String) (writers : queue.writers ⊆ next.writers)
      (readers : queue.readers ⊆ next.readers) :
      call.weight crowd (predicate.toil crowd) next me ≤
        call.weight crowd (predicate.toil crowd) queue me :=
    call.weight_le_of_subset me writers readers
  cases reader with
  | checking | asking | finished => exact ⟨Nat.le_add_right .., fun _ _ => Nat.le_refl _⟩
  | acting rest reading inside =>
      exact ⟨Nat.add_le_add_left (woken inside.call) _,
        fun writers readers => Nat.add_le_add_left (asleep inside.call writers readers) _⟩
  | pushing rest reading push =>
      exact ⟨Nat.add_le_add_left (woken (.push push)) _,
        fun writers readers => Nat.add_le_add_left (asleep (.push push) writers readers) _⟩
  | ending result mark =>
      exact ⟨woken (.endStream mark), fun writers readers =>
        asleep (.endStream mark) writers readers⟩

theorem Consumer.weight_le (consumer : Consumer) (me : ι) :
    consumer.weight predicate crowd next me ≤ consumer.weight predicate crowd queue me + 3 ∧
      (queue.writers ⊆ next.writers → queue.readers ⊆ next.readers →
        consumer.weight predicate crowd next me ≤ consumer.weight predicate crowd queue me) := by
  cases consumer with
  | testing | finished => exact ⟨Nat.le_add_right .., fun _ _ => Nat.le_refl _⟩
  | popping counts pop =>
      exact ⟨(Call.pop pop).weight_le me, fun writers readers =>
        (Call.pop pop).weight_le_of_subset me writers readers⟩
  | acting counts line actions inside =>
      exact ⟨Nat.add_le_add_left (inside.call.weight_le me) _, fun writers readers =>
        Nat.add_le_add_left (inside.call.weight_le_of_subset me writers readers) _⟩

end Weights

namespace Scan

variable {around : Surroundings}

def Worker.weight (predicate : Predicate) (crowd : Nat) (queue : Queue Thread String)
    (me : Thread) : Worker → Nat
  | .consuming consumer => consumer.weight predicate crowd queue me + (crowd + 15)
  | .recording _ => crowd + 14
  | .leaving => crowd + 13
  | .probing => crowd + 12
  | .checking => crowd + 11
  | .cancelling call => (Call.cancel call).weight crowd (predicate.toil crowd) queue me + 6
  | .arriving => 6
  | .waiting => 5
  | .aggregating => 4
  | .reporting _ => 3
  | .publishing _ => 2
  | .ended | .died _ => 0

def Requester.weight (predicate : Predicate) (crowd : Nat) (queue : Queue Thread String)
    (me : Thread) : Requester → Nat
  | .asking inside => inside.call.weight crowd (predicate.toil crowd) queue me
  | .satisfied => 0

def Coordinator.weight (workers : Nat) : Coordinator → Nat
  | .awaitingReader => workers + 5
  | .awaitingWorkers _ next => workers - next + 4
  | .announcing _ => 3
  | .totalling _ => 2
  | .closing _ _ => 1
  | .returned _ | .died _ => 0

/-- Who is woken at the rendezvous does not go to sleep there again. -/
def State.Rouses (state : State) : Prop :=
  ∀ index : Nat, state.workers[index]? = some .waiting → ∀ rendezvous,
    state.shared.rendezvous.resume? (.worker index) ≠ some (rendezvous, none)

theorem State.Gathered.rouses {state : State} (gathered : state.Gathered) : state.Rouses := by
  intro index there rendezvous resumed
  cases (gathered.resume_eq_some there resumed).2.2

/-- Where nobody goes to sleep again at the rendezvous, every step of a worker eases. -/
theorem Worker.Turn.eases {state : State} {shared : Shared} {number : Count}
    {worker after : Worker} {events : List Event} {crowd : Nat} (rouses : state.Rouses)
    (there : state.workers[number.toNat]? = some worker)
    (turn : Worker.Turn around state.shared number worker shared after events)
    (valid : state.shared.queue.ring.Valid)
    (fits : Fits state.shared.queue (.worker number.toNat) worker.call) :
    Eases crowd (around.predicate.toil crowd) state.shared.queue shared.queue
      (worker.weight around.predicate crowd state.shared.queue (.worker number.toNat))
      (after.weight around.predicate crowd shared.queue (.worker number.toNat)) := by
  have arrives := afterRendezvous_of
    (·.weight around.predicate crowd state.shared.queue (.worker number.toNat) ≤ 4)
    (Nat.le_refl _) (Nat.zero_le _) number.toNat
  cases turn with
  | consumes stepped =>
      have eases : Eases crowd (around.predicate.toil crowd) state.shared.queue _ _ _ :=
        Consumer.eases stepped valid fits
      apply eases.mono
      simp only [Worker.weight]
      omega
  | @cancels call next move stepped progress =>
      have eases : Eases crowd (around.predicate.toil crowd) state.shared.queue move.queue _ _ :=
        Cancel.eases stepped valid fits
      rw [progress] at eases
      apply eases.mono
      simp only [Worker.weight, Progress.call]
      omega
  | @cancelled call first move stepped progress =>
      have eases : Eases crowd (around.predicate.toil crowd) state.shared.queue move.queue _ _ :=
        Cancel.eases stepped valid fits
      rw [progress] at eases
      apply eases.mono
      simp only [Worker.weight, Progress.call, Call.weight]
      omega
  | meets | resumes => exact eases_of_lt (Nat.lt_of_le_of_lt (arrives _) (by simp [Worker.weight]))
  | waitsAgain resumed => exact absurd resumed (rouses _ there _)
  | _ =>
      apply eases_of_lt
      simp [Worker.weight, Consumer.weight, Call.weight]

theorem Worker.weight_le {predicate : Predicate} {crowd : Nat} {queue next : Queue Thread String}
    (worker : Worker) (me : Thread) :
    worker.weight predicate crowd next me ≤ worker.weight predicate crowd queue me + 3 ∧
      (queue.writers ⊆ next.writers → queue.readers ⊆ next.readers →
        worker.weight predicate crowd next me ≤ worker.weight predicate crowd queue me) := by
  cases worker with
  | consuming consumer =>
      have light : consumer.weight predicate crowd next me ≤
          consumer.weight predicate crowd queue me + 3 ∧ _ := consumer.weight_le me
      constructor
      · simp only [Worker.weight]
        omega
      · exact fun writers readers => Nat.add_le_add_right (light.2 writers readers) _
  | cancelling call => cases call <;> exact ⟨Nat.le_add_right .., fun _ _ => Nat.le_refl _⟩
  | _ => exact ⟨Nat.le_add_right .., fun _ _ => Nat.le_refl _⟩

/-- What it costs at most to wake the reader and all workers. -/
def State.crowd (state : State) : Nat := 3 * (state.workers.length + 1)

def Worker.weigh (predicate : Predicate) (crowd : Nat) (queue : Queue Thread String)
    (workers : List Worker) : Nat :=
  total (fun index worker => worker.weight predicate crowd queue (.worker index)) workers

def Requester.weigh (predicate : Predicate) (crowd : Nat) (queue : Queue Thread String)
    (requesters : List Requester) : Nat :=
  total (fun index requester => requester.weight predicate crowd queue (.requester index))
    requesters

def State.weight (around : Surroundings) (state : State) : Nat :=
  state.shared.queue.hoard state.crowd (around.predicate.toil state.crowd) +
    state.reader.weight around.predicate state.crowd state.shared.queue .reader +
    Worker.weigh around.predicate state.crowd state.shared.queue state.workers +
    Requester.weigh around.predicate state.crowd state.shared.queue state.requesters +
    state.coordinator.weight state.workers.length

/-- Whoever asks for shutdown does not sleep at the queue. -/
theorem Requester.weight_eq (predicate : Predicate) (crowd : Nat)
    (queue next : Queue Thread String) (me : Thread) (requester : Requester) :
    requester.weight predicate crowd next me = requester.weight predicate crowd queue me := by
  cases requester with
  | asking inside => exact Queue.Acting.weight_eq inside _ _
  | satisfied => rfl

theorem Requester.weigh_eq (predicate : Predicate) (crowd : Nat)
    (queue next : Queue Thread String) (requesters : List Requester) :
    weigh predicate crowd next requesters = weigh predicate crowd queue requesters := by
  unfold weigh
  congr 1
  funext index requester
  exact weight_eq predicate crowd queue next (.requester index) requester

theorem Requester.weight_after (predicate : Predicate) (crowd : Nat)
    (queue : Queue Thread String) (me : Thread) (progress : Progress Queue.Acting Bool) :
    (Requester.after progress).1.weight predicate crowd queue me =
      (progress.call Acting.call).weight crowd (predicate.toil crowd) queue me := by
  cases progress <;> rfl

theorem Coordinator.Turn.weight_lt {state : State} {before after : Coordinator}
    {events : List Event} (turn : Turn state before after events) :
    after.weight state.workers.length < before.weight state.workers.length := by
  cases turn with
  | joins there | joinsDead there =>
      have inside := (List.getElem?_eq_some_iff.mp there).1
      simp only [Coordinator.weight]
      omega
  | hasJoinedAll =>
      simp only [Coordinator.weight]
      omega
  | _ => simp [Coordinator.weight]

/-- What the others gain by a step is paid for. -/
theorem others_gain {state : State} {next : Queue Thread String} {before after : Nat}
    (eases : Eases state.crowd (around.predicate.toil state.crowd) state.shared.queue next
      before after) :
    ∃ slack, after + next.hoard state.crowd (around.predicate.toil state.crowd) +
        (slack * state.workers.length + slack) <
          before + state.shared.queue.hoard state.crowd (around.predicate.toil state.crowd) ∧
      (∀ (worker : Worker) (me : Thread), worker.weight around.predicate state.crowd next me ≤
        worker.weight around.predicate state.crowd state.shared.queue me + slack) ∧
      state.reader.weight around.predicate state.crowd next .reader ≤
        state.reader.weight around.predicate state.crowd state.shared.queue .reader + slack := by
  rcases eases with ⟨wake, rfl | ⟨rfl, writers, readers⟩, lighter⟩
  · exact ⟨3, lighter, fun worker me => (worker.weight_le me).1, (state.reader.weight_le _).1⟩
  · exact ⟨0, by simpa using lighter, fun worker me => (worker.weight_le me).2 writers readers,
      (state.reader.weight_le _).2 writers readers⟩

/-- Every step takes something off. -/
theorem State.weight_lt {events : List Event} {state next : State} {thread : Thread}
    (consistent : Consistent state.shared.queue state.calls) (rouses : state.Rouses)
    (moved : Moved around state thread next events) :
    next.weight around < state.weight around := by
  have valid := consistent.ring
  cases moved with
  | @reader _ step stepped =>
      have eases : Eases state.crowd (around.predicate.toil state.crowd) _ _ _ _ :=
        Reader.eases stepped valid (consistent.fits .reader)
      rcases others_gain eases with ⟨slack, lighter, worker, -⟩
      have workers : Worker.weigh around.predicate state.crowd step.queue state.workers ≤
          Worker.weigh around.predicate state.crowd state.shared.queue state.workers + _ :=
        total_le state.workers fun index other => worker other (.worker index)
      have requesters := Requester.weigh_eq around.predicate state.crowd state.shared.queue
        step.queue state.requesters
      simp only [State.weight, State.crowd] at lighter workers requesters ⊢
      omega
  | @worker _ worker step number there stepped =>
      have fits := consistent.fits (.worker number.toNat)
      rw [calls_worker there] at fits
      have eases : Eases state.crowd (around.predicate.toil state.crowd) _ _ _ _ :=
        (Worker.turn stepped).eases rouses there valid fits
      rcases others_gain eases with ⟨slack, lighter, worker, reader⟩
      have workers : Worker.weigh around.predicate state.crowd step.shared.queue
          (state.workers.set number.toNat step.worker) + _ ≤
            Worker.weigh around.predicate state.crowd state.shared.queue state.workers + _ + _ :=
        total_set_le there step.worker fun index other => worker other (.worker index)
      have requesters := Requester.weigh_eq around.predicate state.crowd state.shared.queue
        step.shared.queue state.requesters
      simp only [State.weight, State.crowd, List.length_set] at lighter workers reader requesters ⊢
      omega
  | @requester index inside acted there stepped =>
      have fits := consistent.fits (.requester index)
      rw [calls_requester there] at fits
      have eases : Eases state.crowd (around.predicate.toil state.crowd) _ _ _ _ :=
        Acting.eases stepped valid fits
      rw [← Requester.weight_after around.predicate] at eases
      rcases others_gain eases with ⟨slack, lighter, worker, reader⟩
      have workers : Worker.weigh around.predicate state.crowd acted.queue state.workers ≤
          Worker.weigh around.predicate state.crowd state.shared.queue state.workers + _ :=
        total_le state.workers fun index other => worker other (.worker index)
      have requesters : Requester.weigh around.predicate state.crowd acted.queue
          (state.requesters.set index (Requester.after acted.progress).1) + _ ≤
            Requester.weigh around.predicate state.crowd state.shared.queue state.requesters +
              _ + 0 * _ :=
        total_set_le there _ fun other requester =>
          Nat.le_of_eq (requester.weight_eq around.predicate state.crowd _ _ (.requester other))
      have heavy : inside.call.weight state.crowd (around.predicate.toil state.crowd)
          state.shared.queue (.requester index) =
            (Requester.asking inside).weight around.predicate state.crowd state.shared.queue
              (.requester index) := rfl
      simp only [State.weight, State.crowd] at lighter workers reader requesters heavy ⊢
      omega
  | coordinator stepped =>
      have lighter := (Coordinator.turn stepped).weight_lt
      simp only [State.weight, State.crowd]
      omega

/-! ## How much there is to do at the start -/

theorem burden_le (around : Surroundings) (crowd : Nat) (source : List Entry) :
    Reader.burden around.predicate crowd source ≤
      (2 * crowd + 13) * source.length + (crowd + 5) * requestsOn around source + crowd + 4 := by
  induction source with
  | nil => simp [Reader.burden, requestsOn]
  | cons entry rest ih =>
      have asked : requestsOn around (entry :: rest) =
          requestsOn around [entry] + requestsOn around rest := by
        simp [requestsOn]
      rw [Reader.burden_cons, asked, List.length_cons, Nat.mul_add (crowd + 5), Nat.mul_succ]
      cases entry with
      | line text =>
          have mine : requestsOn around [.line text] = (around.predicate text).actions.length := by
            simp [requestsOn]
          rw [mine]
          simp only [Entry.weight, Predicate.toil]
          omega
      | act action | failure message | fault message =>
          simp only [Entry.weight]
          omega

/-- At the start, a scan weighs no more than its budget. -/
theorem State.weight_start_le (around : Surroundings) (capacity workers : Nat)
    (source : List Feed) (requests : Nat) :
    (State.start capacity workers source requests).weight around ≤
      (State.start capacity workers source requests).budget around := by
  have crowd : (State.start capacity workers source requests).crowd = 3 * (workers + 1) := by
    simp [State.crowd, State.start]
  have reading := burden_le around (3 * (workers + 1)) (source.map Feed.entry)
  have working : Worker.weigh around.predicate (3 * (workers + 1)) (Queue.empty capacity)
      (List.replicate workers (.consuming .start)) ≤ (3 * workers + 23) * workers := by
    apply total_replicate_le
    intro index
    simp only [Worker.weight, Consumer.start, Consumer.weight, Call.weight]
    omega
  have asking : Requester.weigh around.predicate (3 * (workers + 1)) (Queue.empty capacity)
      (List.replicate requests (.asking (Queue.Action.start .shutdown))) ≤
        (3 * workers + 7) * requests := by
    apply total_replicate_le
    intro index
    simp only [Requester.weight, Action.start, Acting.call, Call.weight]
    omega
  rw [State.weight, crowd]
  simp only [State.start, State.budget, Queue.hoard, Queue.empty, Reader.start, Reader.weight,
    Coordinator.weight, State.remaining, List.length_replicate, Ring.toList_empty, List.map_nil,
    List.sum_nil] at working asking ⊢
  rw [List.length_map] at reading
  rw [List.length_map]
  generalize requestsOn around (source.map Feed.entry) = asked at reading ⊢
  nlinarith [Nat.zero_le (source.length * workers), Nat.zero_le (asked * workers),
    Nat.zero_le (source.length * requests), Nat.zero_le (asked * requests),
    Nat.zero_le (workers * requests), Nat.zero_le (requests * requests)]

/-- No sequence of steps of a scan is longer than its budget. -/
theorem length_le_budget (only : around.ShutsDown) {capacity workers : Count}
    (positive : 0 < capacity.toNat) {source : List Feed} {requests number : Nat} {last : State}
    (steps : (system around).Steps (State.start capacity.toNat workers.toNat source requests)
      number last) :
    number ≤ (State.start capacity.toNat workers.toNat source requests).budget around := by
  have bound : number + last.weight around ≤
      (State.start capacity.toNat workers.toNat source requests).weight around := by
    apply steps.length_le
    intro events state thread pick next seen run stepped
    have sound := sound_of_run only positive run
    exact State.weight_lt sound.queued.consistent sound.gathered.rouses (moved_of_step stepped)
  calc number
      ≤ number + last.weight around := Nat.le_add_right ..
    _ ≤ (State.start capacity.toNat workers.toNat source requests).weight around := bound
    _ ≤ (State.start capacity.toNat workers.toNat source requests).budget around :=
        State.weight_start_le ..

end Scan

end LineTally
