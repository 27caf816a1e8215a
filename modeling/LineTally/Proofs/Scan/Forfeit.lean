import LineTally.Proofs.Scan.Weight

/-!
# Scans that were forfeited

If the rendezvous of a scan is forfeited before all workers have come to it, it is never complete.
Nobody waits there, and every worker that comes ends at once, without looking at the tallies; so
none of them faults.
-/

namespace LineTally.Scan

open Queue

/-- What holds of the queue has nothing to do with the rendezvous. -/
theorem State.Queued.elsewhere {source : List Entry} {events : List Event} {state : State}
    (queued : state.Queued source events) (rendezvous : Rendezvous Thread) :
    ({ state with shared := { state.shared with rendezvous } } : State).Queued source events :=
  { queued with tame := { queued.tame with within := { queued.tame.within with } } }

/-- The rendezvous was forfeited in time. -/
structure State.Forfeited (state : State) : Prop where
  few : state.workers.length < Count.limit
  sound : state.shared.rendezvous.Sound
  released : state.shared.rendezvous.arrival? = some .forfeited
  parties : state.shared.rendezvous.parties = state.workers.length
  arrived : state.shared.rendezvous.arrived = state.workers.countP (·.hasArrived)
  past : ∀ worker ∈ state.workers, worker.isPast = true → worker = .ended

namespace State.Gathered

variable {state : State}

/-- As long as nobody forfeits it, a rendezvous that agrees with the workers is sound. -/
theorem rendezvous_sound (gathered : state.Gathered) : state.shared.rendezvous.Sound where
  few := by
    rw [gathered.arrived, gathered.parties]
    exact List.countP_le_length
  exclusive both := by
    rw [gathered.kept] at both
    cases both.2
  all complete := by
    rw [gathered.arrived, gathered.parties]
    exact gathered.complete.mp complete
  more held := by
    rw [gathered.arrived, gathered.parties]
    refine lt_of_le_of_ne List.countP_le_length fun all => ?_
    have open_ := (Rendezvous.arrival?_eq_none_iff.mp held).1
    rw [gathered.complete.mpr all] at open_
    cases open_
  awake released := by
    apply gathered.awake
    by_contra open_
    exact released (Rendezvous.arrival?_eq_none_iff.mpr ⟨by simpa using open_, gathered.kept⟩)

theorem forfeit (gathered : state.Gathered) (few : state.workers.length < Count.limit)
    (open_ : state.shared.rendezvous.complete = false) :
    ({ state with
        shared := { state.shared with
          rendezvous := state.shared.rendezvous.forfeit } } : State).Forfeited where
  few
  sound := gathered.rendezvous_sound.forfeit.1
  released := by simp [Rendezvous.forfeit, Rendezvous.arrival?, open_]
  parties := by
    rw [Rendezvous.parties_forfeit]
    exact gathered.parties
  arrived := by
    rw [Rendezvous.arrived_forfeit]
    exact gathered.arrived
  past worker member through := by
    rcases List.getElem?_of_mem member with ⟨index, there⟩
    have complete := gathered.past index worker there through
    rw [open_] at complete
    cases complete

end State.Gathered

namespace State.Forfeited

variable {around : Surroundings} {state next : State} {shared : Shared} {number : Count}
variable {worker after : Worker} {thread : Thread} {events : List Event}

/-- Whoever was woken leaves. -/
theorem resume_eq (forfeited : state.Forfeited) (me : Thread) :
    state.shared.rendezvous.resume? me = some (state.shared.rendezvous, some .forfeited) :=
  Rendezvous.resume?_of_arrival? forfeited.released
    (forfeited.sound.awake (by simp [forfeited.released]))

theorem rouses (forfeited : state.Forfeited) : state.Rouses := by
  intro index _ rendezvous resumed
  rw [forfeited.resume_eq] at resumed
  cases resumed

/-- Whoever arrives is counted and leaves. -/
theorem arrive_eq (forfeited : state.Forfeited)
    (there : state.workers[number.toNat]? = some .arriving) (me : Thread) :
    ∃ rendezvous, state.shared.rendezvous.arrive me = .ok (rendezvous, some .forfeited) ∧
      state.shared.rendezvous.Received me rendezvous (some .forfeited) := by
  have fits : state.shared.rendezvous.parties < Count.limit := forfeited.parties ▸ forfeited.few
  have arriving := state.shared.rendezvous.arriving me fits
  cases arrived : state.shared.rendezvous.arrive me with
  | error fault =>
      rw [arrived] at arriving
      cases arriving with
      | late full =>
          rw [forfeited.parties, forfeited.arrived] at full
          have fewer := Gathered.countP_lt_of_hasArrived_eq_false there rfl
          omega
  | ok result =>
      rcases result with ⟨rendezvous, arrival?⟩
      rw [arrived] at arriving
      have received := forfeited.sound.received arriving
      have said := received.kept (by simp [forfeited.released])
      rw [received.said, forfeited.released] at said
      subst said
      exact ⟨rendezvous, rfl, received⟩

/-- A worker goes on, and its step may be an arrival at the rendezvous. -/
theorem replace (forfeited : state.Forfeited)
    (there : state.workers[number.toNat]? = some worker) (sound : shared.rendezvous.Sound)
    (parties : shared.rendezvous.parties = state.shared.rendezvous.parties)
    (released : shared.rendezvous.arrival? = state.shared.rendezvous.arrival?)
    (counted : shared.rendezvous.arrived + (if worker.hasArrived then 1 else 0) =
      state.shared.rendezvous.arrived + (if after.hasArrived then 1 else 0))
    (past : after.isPast = true → after = .ended) :
    ({ state with shared, workers := state.workers.set number.toNat after } : State).Forfeited where
  few := by simpa using forfeited.few
  sound
  released := released.trans forfeited.released
  parties := by
    rw [List.length_set]
    exact parties.trans forfeited.parties
  arrived := by
    have changed := countP_set_add there after (·.hasArrived)
    have arrived := forfeited.arrived
    dsimp only
    omega
  past other member through := by
    rcases List.mem_or_eq_of_mem_set member with before | rfl
    · exact forfeited.past other before through
    · exact past through

/-- The rendezvous stays forfeited with every step of a worker. -/
theorem turn (forfeited : state.Forfeited)
    (there : state.workers[number.toNat]? = some worker)
    (turn : Worker.Turn around state.shared number worker shared after events) :
    ({ state with shared, workers := state.workers.set number.toNat after } : State).Forfeited := by
  have resume := forfeited.resume_eq (.worker number.toNat)
  have sums (past : worker.isPast = true) : worker = .ended :=
    forfeited.past worker (List.mem_of_getElem? there) past
  cases turn with
  | comesLate arrived | waits arrived =>
      rcases forfeited.arrive_eq there (.worker number.toNat) with ⟨_, met, -⟩
      rw [met] at arrived
      cases arrived
  | meets arrived =>
      rcases forfeited.arrive_eq there (.worker number.toNat) with ⟨_, met, received⟩
      rw [met] at arrived
      cases arrived
      exact forfeited.replace there received.sound received.parties
        (received.kept (by simp [forfeited.released])) received.arrived fun _ => rfl
  | resumes resumed =>
      rw [resume] at resumed
      cases resumed
      exact forfeited.replace there forfeited.sound rfl rfl rfl fun _ => rfl
  | waitsAgain resumed =>
      rw [resume] at resumed
      cases resumed
  | sums | sumFaults | reports | sinkFaults | publishes | publishesAgain => cases sums rfl
  | _ => exact forfeited.replace there forfeited.sound rfl rfl rfl nofun

theorem step (forfeited : state.Forfeited) (moved : Moved around state thread next events) :
    next.Forfeited := by
  cases moved with
  | worker number there stepped => exact forfeited.turn there (Worker.turn stepped)
  | reader | requester | coordinator => exact { forfeited with }

end State.Forfeited

end LineTally.Scan
