import LineTally.Proofs.Rendezvous
import LineTally.Proofs.Scan.Calls

/-!
# How the workers of a scan wait for one another

The number of workers alive is that of the workers that have not left their ranks, and the number of
arrivals at the rendezvous is that of the workers that are there or behind it.  So the rendezvous is
complete when all workers have come to it, nobody passes it before, and nobody comes late.
-/

namespace LineTally.Scan

/-- The worker has left the ranks of the living. -/
def Worker.hasLeft : Worker → Bool
  | .consuming _ | .recording _ | .leaving => false
  | _ => true

/-- The worker has arrived at the rendezvous. -/
def Worker.hasArrived : Worker → Bool
  | .waiting | .aggregating | .reporting _ | .publishing _ | .ended | .died _ => true
  | _ => false

/-- The worker is past the rendezvous. -/
def Worker.isPast : Worker → Bool
  | .aggregating | .reporting _ | .publishing _ | .ended | .died _ => true
  | _ => false

/-- The worker is where it may be: only the first sums up, and only the sink ends it by a fault. -/
def Worker.Placed (around : Surroundings) (index : Nat) : Worker → Prop
  | .aggregating | .reporting _ | .publishing _ => index = aggregator
  | .died fault => index = aggregator ∧ ∃ tally, around.sink tally = some fault
  | _ => True

/-- The count of the living agrees with where the workers are. -/
structure State.Ranked (state : State) : Prop where
  few : state.workers.length < Count.limit
  live : state.shared.live = state.workers.countP (!·.hasLeft)

/-- What is shared at the rendezvous agrees with where the workers are. -/
structure State.Gathered (state : State) : Prop where
  parties : state.shared.rendezvous.parties = state.workers.length
  kept : state.shared.rendezvous.forfeited = false
  arrived : state.shared.rendezvous.arrived = state.workers.countP (·.hasArrived)
  complete : state.shared.rendezvous.complete = true ↔
    state.workers.countP (·.hasArrived) = state.workers.length
  awake : state.shared.rendezvous.complete = true → state.shared.rendezvous.sleepers = []
  asleep : state.shared.rendezvous.complete = false → ∀ index : Nat,
    state.workers[index]? = some .waiting →
      .worker index ∈ state.shared.rendezvous.sleepers
  past : ∀ (index : Nat) (worker : Worker), state.workers[index]? = some worker →
    worker.isPast = true → state.shared.rendezvous.complete = true

/-! ## The ranks of the living -/

/-- How a step of a worker counts the living. -/
theorem Worker.Turn.live {around : Surroundings} {shared next : Shared} {number : Count}
    {worker after : Worker} {events : List Event}
    (turn : Worker.Turn around shared number worker next after events) :
    next.live = shared.live ∧ after.hasLeft = worker.hasLeft ∨
      worker = .leaving ∧ after.hasLeft = true ∧
        next.live = (shared.live + (Count.limit - 1)) % Count.limit := by
  have arrives := afterRendezvous_of (·.hasLeft = true) rfl rfl number.toNat
  cases turn with
  | leaves | leavesLast => exact Or.inr ⟨rfl, rfl, rfl⟩
  | meets | resumes => exact Or.inl ⟨rfl, arrives _⟩
  | _ => exact Or.inl ⟨rfl, rfl⟩

theorem State.Ranked.start (capacity : Nat) (workers : Count) (source : List Feed)
    (requests : Nat) : (State.start capacity workers.toNat source requests).Ranked where
  few := by simpa [State.start] using workers.toNat_lt
  live := by
    change workers.toNat = (List.replicate workers.toNat _).countP _
    rw [List.countP_replicate]
    rfl

theorem State.Ranked.turn {around : Surroundings} {state : State} {shared : Shared}
    {number : Count} {place : Nat} {worker after : Worker} {events : List Event}
    (ranked : state.Ranked) (there : state.workers[place]? = some worker)
    (turn : Worker.Turn around state.shared number worker shared after events) :
    ({ state with shared, workers := state.workers.set place after } : State).Ranked := by
  have few := ranked.few
  have live := ranked.live
  have counted := countP_set_add there after (!·.hasLeft)
  refine ⟨by simpa using few, ?_⟩
  rcases turn.live with ⟨same, left⟩ | ⟨rfl, left, less⟩
  · simp only [left, Nat.add_right_cancel_iff] at counted
    rw [counted, same, live]
  · have before : Worker.leaving.hasLeft = false := rfl
    simp only [left, before, Bool.not_true, Bool.not_false, if_true, Bool.false_eq_true,
      if_false] at counted
    -- Taking one off wraps around at nothing, but there is one at least.
    have fewer := List.countP_le_length (p := (!·.hasLeft)) (l := state.workers)
    have wrapped : state.shared.live + (Count.limit - 1) =
        (state.shared.live - 1) + Count.limit := by omega
    rw [less, wrapped, Nat.add_mod_right, Nat.mod_eq_of_lt (by omega)]
    change state.shared.live - 1 = (state.workers.set place after).countP (!·.hasLeft)
    omega

/-! ## The rendezvous -/

namespace State.Gathered

variable {around : Surroundings} {state : State} {shared : Shared} {number : Count} {place : Nat}
variable {worker after : Worker} {events : List Event}

theorem start (capacity workers : Nat) (source : List Feed) (requests : Nat) :
    (State.start capacity workers source requests).Gathered where
  parties := by simp [State.start, Rendezvous.ofParties]
  kept := rfl
  arrived := by
    change 0 = (List.replicate workers _).countP _
    rw [List.countP_replicate]
    rfl
  complete := by
    change (workers == 0) = true ↔
      (List.replicate workers _).countP _ = (List.replicate workers _).length
    rw [List.countP_replicate, List.length_replicate, beq_iff_eq]
    exact eq_comm
  awake _ := rfl
  asleep _ index there := by
    have consuming := List.eq_of_mem_replicate (List.mem_of_getElem? there)
    cases consuming
  past index worker there past := by
    have consuming := List.eq_of_mem_replicate (List.mem_of_getElem? there)
    subst consuming
    cases past

/-- Not all have arrived as long as one has not. -/
theorem countP_lt_of_hasArrived_eq_false
    (there : state.workers[place]? = some worker) (away : worker.hasArrived = false) :
    state.workers.countP (·.hasArrived) < state.workers.length := by
  apply lt_of_le_of_ne List.countP_le_length
  intro all
  rw [List.countP_eq_length] at all
  simp [all worker (List.mem_of_getElem? there)] at away

/-- A step that is not about the rendezvous. -/
theorem elsewhere (gathered : state.Gathered) (there : state.workers[place]? = some worker)
    (rendezvous : shared.rendezvous = state.shared.rendezvous)
    (arrived : after.hasArrived = worker.hasArrived)
    (waiting : after = .waiting → worker = .waiting)
    (past : after.isPast = true →
      worker.isPast = true ∨ state.shared.rendezvous.complete = true) :
    ({ state with shared, workers := state.workers.set place after } : State).Gathered := by
  have arrivedSame := countP_set_add there after (·.hasArrived)
  simp only [arrived, Nat.add_right_cancel_iff] at arrivedSame
  constructor
  case parties => rw [rendezvous, gathered.parties, List.length_set]
  case kept => rw [rendezvous, gathered.kept]
  case arrived => rw [arrivedSame, rendezvous, gathered.arrived]
  case complete => rw [arrivedSame, rendezvous, gathered.complete, List.length_set]
  case awake =>
    rw [rendezvous]
    exact gathered.awake
  case asleep =>
    rw [rendezvous]
    intro open_ index sleeping
    refine forall_of_set (fun index thread => thread = Worker.waiting →
      Thread.worker index ∈ state.shared.rendezvous.sleepers) ?_ ?_ index _ sleeping rfl
    · intro waits
      exact gathered.asleep open_ place (waiting waits ▸ there)
    · rintro index _ - sleeping rfl
      exact gathered.asleep open_ index sleeping
  case past =>
    rw [rendezvous]
    apply forall_of_set
    · intro through
      rcases past through with before | complete
      · exact gathered.past place worker there before
      · exact complete
    · exact fun index other _ => gathered.past index other

/-- A worker that is not the last to arrive goes to sleep. -/
theorem sleeps (gathered : state.Gathered) (there : state.workers[place]? = some .arriving)
    (early : state.shared.rendezvous.arrived + 1 < state.shared.rendezvous.parties) :
    ({ state with
        shared := { state.shared with
          rendezvous := { state.shared.rendezvous with
            arrived := state.shared.rendezvous.arrived + 1
            sleepers := state.shared.rendezvous.sleepers ++ [.worker place] } }
        workers := state.workers.set place .waiting } : State).Gathered := by
  have more := countP_set_add there .waiting (·.hasArrived)
  have before : Worker.arriving.hasArrived = false := rfl
  have behind : Worker.waiting.hasArrived = true := rfl
  simp only [before, behind, if_true, Bool.false_eq_true, if_false, Nat.add_zero] at more
  have arrived := gathered.arrived
  have parties := gathered.parties
  have open_ : state.shared.rendezvous.complete = false := by
    by_contra complete
    have all := gathered.complete.mp (by simpa using complete)
    omega
  constructor
  case parties => simpa using parties
  case kept => exact gathered.kept
  case arrived => rw [more, arrived]
  case complete =>
    rw [more, List.length_set]
    exact iff_of_false (by simp [open_]) (by omega)
  case awake => simp [open_]
  case asleep =>
    intro _ index sleeping
    refine forall_of_set (fun index thread => thread = Worker.waiting →
      Thread.worker index ∈ state.shared.rendezvous.sleepers ++ [Thread.worker place])
      ?_ ?_ index _ sleeping rfl
    · simp
    · rintro index _ - sleeping rfl
      exact List.mem_append_left _ (gathered.asleep open_ index sleeping)
  case past =>
    apply forall_of_set
    · intro past
      cases past
    · exact fun index other _ => gathered.past index other

/-- The last worker completes the rendezvous. -/
theorem completes (gathered : state.Gathered) (there : state.workers[place]? = some .arriving)
    (last : state.shared.rendezvous.arrived + 1 = state.shared.rendezvous.parties)
    (arrives : after.hasArrived = true) :
    ({ state with
        shared := { state.shared with
          rendezvous := { state.shared.rendezvous with
            arrived := state.shared.rendezvous.arrived + 1
            complete := true
            sleepers := [] } }
        workers := state.workers.set place after } : State).Gathered := by
  have more := countP_set_add there after (·.hasArrived)
  have before : Worker.arriving.hasArrived = false := rfl
  simp only [before, arrives, if_true, Bool.false_eq_true, if_false, Nat.add_zero] at more
  have arrived := gathered.arrived
  have parties := gathered.parties
  constructor
  case parties => simpa using parties
  case kept => exact gathered.kept
  case arrived => rw [more, arrived]
  case complete =>
    rw [more, List.length_set]
    exact iff_of_true rfl (by omega)
  case awake => exact fun _ => rfl
  case asleep => simp
  case past => exact fun _ _ _ _ => rfl

/-- Nobody comes late: a worker that arrives is the last, or goes to sleep. -/
theorem arrive_cases (gathered : state.Gathered) (few : state.workers.length < Count.limit)
    (there : state.workers[place]? = some .arriving) (me : Thread) :
    state.shared.rendezvous.arrived + 1 = state.shared.rendezvous.parties ∧
        state.shared.rendezvous.arrive me = .ok
          ({ state.shared.rendezvous with
              arrived := state.shared.rendezvous.arrived + 1
              complete := true
              sleepers := [] },
            some .complete) ∨
      state.shared.rendezvous.arrived + 1 < state.shared.rendezvous.parties ∧
        state.shared.rendezvous.arrive me = .ok
          ({ state.shared.rendezvous with
              arrived := state.shared.rendezvous.arrived + 1
              sleepers := state.shared.rendezvous.sleepers ++ [me] },
            none) := by
  have fits : state.shared.rendezvous.parties < Count.limit := gathered.parties ▸ few
  have fewer := countP_lt_of_hasArrived_eq_false there rfl
  have inTime : state.shared.rendezvous.arrived + 1 ≤ state.shared.rendezvous.parties := by
    rw [gathered.arrived, gathered.parties]
    exact fewer
  rcases Nat.eq_or_lt_of_le inTime with last | early
  · exact Or.inl ⟨last, Rendezvous.arrive_last fits gathered.kept last⟩
  · have open_ : state.shared.rendezvous.complete = false := by
      by_contra complete
      have all := gathered.complete.mp (by simpa using complete)
      omega
    exact Or.inr ⟨early, Rendezvous.arrive_early fits gathered.kept open_ early⟩

/-- Nobody is turned away at the rendezvous. -/
theorem arrive_ne_error (gathered : state.Gathered) (few : state.workers.length < Count.limit)
    (there : state.workers[place]? = some .arriving) (me : Thread) (fault : Fault) :
    state.shared.rendezvous.arrive me ≠ .error fault := by
  rcases gathered.arrive_cases few there me with ⟨-, met⟩ | ⟨-, met⟩ <;> simp [met]

/-- Whoever passes the rendezvous on its arrival has completed it. -/
theorem arrival_eq_complete (gathered : state.Gathered)
    (few : state.workers.length < Count.limit)
    (there : state.workers[place]? = some .arriving) {me : Thread}
    {rendezvous : Rendezvous Thread} {arrival : Arrival}
    (arrived : state.shared.rendezvous.arrive me = .ok (rendezvous, some arrival)) :
    arrival = .complete := by
  rcases gathered.arrive_cases few there me with ⟨-, met⟩ | ⟨-, met⟩
  · rw [met] at arrived
    cases arrived
    rfl
  · rw [met] at arrived
    cases arrived

/-- A worker that wakes up at the rendezvous passes it; before it is complete nobody wakes up. -/
theorem resume_eq_some (gathered : state.Gathered) {rendezvous : Rendezvous Thread}
    {arrival? : Option Arrival} (there : state.workers[place]? = some .waiting)
    (resumed : state.shared.rendezvous.resume? (.worker place) = some (rendezvous, arrival?)) :
    state.shared.rendezvous.complete = true ∧ rendezvous = state.shared.rendezvous ∧
      arrival? = some .complete := by
  cases complete : state.shared.rendezvous.complete with
  | false =>
      have asleep := gathered.asleep complete place there
      simp [Rendezvous.resume?, asleep] at resumed
  | true =>
      have released := Rendezvous.arrival?_eq_complete_iff.mpr complete
      rw [Rendezvous.resume?_of_arrival? released (gathered.awake complete)] at resumed
      cases resumed
      exact ⟨rfl, rfl, rfl⟩

theorem hasArrived_afterRendezvous (index : Nat) :
    (Worker.afterRendezvous index .complete).hasArrived = true ∧
      Worker.afterRendezvous index .complete ≠ .waiting := by
  simp only [Worker.afterRendezvous]
  split <;> simp [Worker.hasArrived]

/-- The rendezvous agrees with the workers again after each step of one of them. -/
theorem turn (gathered : state.Gathered) (few : state.workers.length < Count.limit)
    (there : state.workers[number.toNat]? = some worker)
    (turn : Worker.Turn around state.shared number worker shared after events) :
    ({ state with shared, workers := state.workers.set number.toNat after } : State).Gathered := by
  cases turn with
  | comesLate arrived => exact absurd arrived (gathered.arrive_ne_error few there _ _)
  | meets arrived =>
      rcases gathered.arrive_cases few there (.worker number.toNat) with ⟨last, met⟩ | ⟨-, met⟩
      · rw [met] at arrived
        cases arrived
        exact gathered.completes there last (hasArrived_afterRendezvous _).1
      · rw [met] at arrived
        cases arrived
  | waits arrived =>
      rcases gathered.arrive_cases few there (.worker number.toNat) with ⟨-, met⟩ | ⟨early, met⟩
      · rw [met] at arrived
        cases arrived
      · rw [met] at arrived
        cases arrived
        exact gathered.sleeps there early
  | resumes resumed =>
      rcases gathered.resume_eq_some there resumed with ⟨complete, rfl, same⟩
      cases same
      have behind := hasArrived_afterRendezvous number.toNat
      exact gathered.elsewhere there rfl behind.1 (fun met => absurd met behind.2)
        (fun _ => Or.inr complete)
  | waitsAgain resumed =>
      rcases gathered.resume_eq_some there resumed with ⟨-, -, same⟩
      cases same
  | _ => exact gathered.elsewhere there rfl rfl (by simp) (by simp [Worker.isPast])

end State.Gathered

end LineTally.Scan
