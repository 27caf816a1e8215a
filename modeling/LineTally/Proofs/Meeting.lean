import LineTally.Meeting
import LineTally.Proofs.Rendezvous
import LineTally.Proofs.Threads

/-!
# How the guests of a meeting leave it

Guests may come to a meeting at any time, and its rendezvous may be forfeited at any time.  Whatever
the order, how a guest leaves is what the rendezvous says from the moment when it was complete or
forfeited, and it does not change its mind: so all guests leave alike, and nobody waits any more.
-/

namespace LineTally.Meeting

/-- The guest has arrived at the rendezvous. -/
def Guest.hasArrived : Guest → Bool
  | .waiting | .left _ => true
  | .arriving | .died _ => false

/-! ## The steps of a meeting -/

/-- One thing that happens at a meeting. -/
inductive Happens (meeting : Meeting) : Happening → Meeting → Prop where
  | comes : Happens meeting .comes { meeting with guests := meeting.guests ++ [.arriving] }
  | comesLate {guest : Nat} (there : meeting.guests[guest]? = some .arriving)
      (full : meeting.rendezvous.parties ≤ meeting.rendezvous.arrived) :
      Happens meeting (.goesOn guest)
        { meeting with guests := meeting.guests.set guest (.died .lateArrival) }
  | arrives {guest : Nat} {rendezvous : Rendezvous Nat} {arrival? : Option Arrival}
      (there : meeting.guests[guest]? = some .arriving)
      (arriving : meeting.rendezvous.Arriving guest (.ok (rendezvous, arrival?))) :
      Happens meeting (.goesOn guest)
        { rendezvous, guests := meeting.guests.set guest (.ofArrival arrival?) }
  | resumes {guest : Nat} {arrival : Arrival} (there : meeting.guests[guest]? = some .waiting)
      (released : meeting.rendezvous.arrival? = some arrival) :
      Happens meeting (.goesOn guest)
        { meeting with guests := meeting.guests.set guest (.left arrival) }
  | sleepsAgain {guest : Nat} (there : meeting.guests[guest]? = some .waiting)
      (awake : guest ∉ meeting.rendezvous.sleepers)
      (held : meeting.rendezvous.arrival? = none) :
      Happens meeting (.goesOn guest) {
        rendezvous := { meeting.rendezvous with
          sleepers := meeting.rendezvous.sleepers ++ [guest] }
        guests := meeting.guests.set guest .waiting }
  | forfeits : Happens meeting .forfeits { meeting with rendezvous := meeting.rendezvous.forfeit }

theorem happens_of_step {meeting next : Meeting} {happening : Happening} {pick : Nat}
    {seen : List Empty} (fits : meeting.rendezvous.parties < Count.limit)
    (stepped : openSystem.step happening pick meeting = some (next, seen)) :
    Happens meeting happening next := by
  cases happening with
  | comes =>
      cases stepped
      exact .comes
  | forfeits =>
      cases stepped
      exact .forfeits
  | goesOn guest =>
      rcases Option.bind_eq_some_iff.mp stepped with ⟨place, there, stepped⟩
      rcases Option.bind_eq_some_iff.mp stepped with ⟨⟨rendezvous, moved⟩, gone, same⟩
      cases same
      cases place with
      | arriving =>
          have arriving := meeting.rendezvous.arriving guest fits
          simp only [Guest.step] at gone
          cases arrived : meeting.rendezvous.arrive guest with
          | error fault =>
              rw [arrived] at arriving gone
              cases gone
              cases arriving with
              | late full => exact .comesLate there full
          | ok result =>
              rw [arrived] at arriving gone
              cases gone
              exact .arrives there arriving
      | waiting =>
          rcases Option.map_eq_some_iff.mp gone with ⟨⟨after, arrival?⟩, resumed, same⟩
          cases same
          unfold Rendezvous.resume? at resumed
          split at resumed
          next => cases resumed
          next awake =>
            split at resumed
            next released =>
              cases resumed
              exact .resumes there released
            next held =>
              cases resumed
              exact .sleepsAgain there awake held
      | left arrival => cases gone
      | died fault => cases gone

/-- Guests that only go on are guests of an open meeting. -/
theorem openSystem_run_of_run {meeting later : Meeting} {events : List Empty}
    (run : system.Run meeting events later) : openSystem.Run meeting events later := by
  induction run with
  | refl => exact .refl meeting
  | tail guest pick _ stepped ih => exact ih.tail (.goesOn guest) pick stepped

/-- A guest that comes, and all that follows from it, is what may happen at an open meeting. -/
theorem openSystem_run_come (meeting : Meeting) :
    ∃ events, openSystem.Run meeting events meeting.come :=
  ⟨_, ((System.Run.refl meeting).tail .comes 0 rfl).trans
    (openSystem_run_of_run (System.run_settle ..))⟩

/-- So is a forfeit. -/
theorem openSystem_run_forfeit (meeting : Meeting) :
    ∃ events, openSystem.Run meeting events meeting.forfeit :=
  ⟨_, ((System.Run.refl meeting).tail .forfeits 0 rfl).trans
    (openSystem_run_of_run (System.run_settle ..))⟩

/-! ## What holds at every meeting -/

/-- What the guests of a meeting of so many parties have to do with its rendezvous. -/
structure Orderly (parties : Nat) (meeting : Meeting) : Prop where
  sound : meeting.rendezvous.Sound
  parties : meeting.rendezvous.parties = parties
  arrived : meeting.rendezvous.arrived = meeting.guests.countP (·.hasArrived)
  asleep : meeting.rendezvous.arrival? = none → ∀ guest : Nat,
    meeting.guests[guest]? = some .waiting → guest ∈ meeting.rendezvous.sleepers
  left : ∀ (guest : Nat) (arrival : Arrival), meeting.guests[guest]? = some (.left arrival) →
    meeting.rendezvous.arrival? = some arrival
  died : ∀ (guest : Nat) (fault : Fault), meeting.guests[guest]? = some (.died fault) →
    fault = .lateArrival ∧ meeting.rendezvous.arrived = meeting.rendezvous.parties

namespace Orderly

variable {parties : Nat} {meeting next : Meeting} {happening : Happening}

theorem start (parties : Nat) : Orderly parties (.ofParties parties) where
  sound := .ofParties parties
  parties := rfl
  arrived := rfl
  asleep _ guest there := by cases there
  left guest arrival there := by cases there
  died guest fault there := by cases there

/-- Somebody who has come is before arriving. -/
theorem getElem?_comes {guest : Nat} {place : Guest}
    (there : (meeting.guests ++ [.arriving])[guest]? = some place) :
    meeting.guests[guest]? = some place ∨ place = .arriving := by
  rw [List.getElem?_append] at there
  split at there
  · exact Or.inl there
  · right
    exact List.mem_singleton.mp (List.mem_of_getElem? there)

/-- One guest goes on, and the rendezvous says nothing else than it said before. -/
theorem replace (orderly : meeting.Orderly parties) {rendezvous : Rendezvous Nat} {guest : Nat}
    {before after : Guest} (there : meeting.guests[guest]? = some before)
    (sound : rendezvous.Sound) (size : rendezvous.parties = meeting.rendezvous.parties)
    (counted : rendezvous.arrived + (if before.hasArrived then 1 else 0) =
      meeting.rendezvous.arrived + (if after.hasArrived then 1 else 0))
    (kept : meeting.rendezvous.arrival? ≠ none →
      rendezvous.arrival? = meeting.rendezvous.arrival?)
    (asleep : rendezvous.arrival? = none → meeting.rendezvous.sleepers ⊆ rendezvous.sleepers ∧
      (after = .waiting → guest ∈ rendezvous.sleepers))
    (left : ∀ arrival, after = .left arrival → rendezvous.arrival? = some arrival)
    (died : ∀ fault, after = .died fault → fault = .lateArrival ∧
      rendezvous.arrived = rendezvous.parties)
    (full : meeting.rendezvous.arrived = meeting.rendezvous.parties →
      rendezvous.arrived = rendezvous.parties) :
    Orderly parties { rendezvous, guests := meeting.guests.set guest after } where
  sound
  parties := size.trans orderly.parties
  arrived := by
    have changed := countP_set_add there after (·.hasArrived)
    have arrived := orderly.arrived
    dsimp only
    omega
  asleep held other found := by
    have open_ : meeting.rendezvous.arrival? = none := by
      by_contra released
      exact released ((kept released).symm.trans held)
    refine forall_of_set (fun index place => place = Guest.waiting →
      index ∈ rendezvous.sleepers) (asleep held).2 ?_ other _ found rfl
    rintro index _ - found rfl
    exact (asleep held).1 (orderly.asleep open_ index found)
  left other arrival found := by
    refine forall_of_set (fun _ place => place = Guest.left arrival →
      rendezvous.arrival? = some arrival) (left arrival) ?_ other _ found rfl
    rintro index _ - found rfl
    have said := orderly.left index arrival found
    rw [kept (by simp [said]), said]
  died other fault found := by
    refine forall_of_set (fun _ place => place = Guest.died fault →
      fault = .lateArrival ∧ rendezvous.arrived = rendezvous.parties) (died fault) ?_
      other _ found rfl
    rintro index _ - found rfl
    exact (orderly.died index fault found).imp_right full

/-- Whatever happens, the guests stay in order, and what the rendezvous says is kept. -/
theorem happens (orderly : meeting.Orderly parties) (happens : Happens meeting happening next) :
    next.Orderly parties ∧ (meeting.rendezvous.arrival? ≠ none →
      next.rendezvous.arrival? = meeting.rendezvous.arrival?) := by
  cases happens with
  | comes =>
      refine ⟨⟨orderly.sound, orderly.parties, ?_, ?_, ?_, ?_⟩, fun _ => rfl⟩
      · rw [List.countP_append]
        exact orderly.arrived
      · intro held guest found
        rcases getElem?_comes found with there | same
        · exact orderly.asleep held guest there
        · cases same
      · intro guest arrival found
        rcases getElem?_comes found with there | same
        · exact orderly.left guest arrival there
        · cases same
      · intro guest fault found
        rcases getElem?_comes found with there | same
        · exact orderly.died guest fault there
        · cases same
  | comesLate there full =>
      refine ⟨orderly.replace there orderly.sound rfl rfl (fun _ => rfl) ?_ ?_ ?_ id,
        fun _ => rfl⟩
      · exact fun _ => ⟨List.Subset.refl _, fun same => by cases same⟩
      · intro arrival same
        cases same
      · intro fault same
        cases same
        exact ⟨rfl, Nat.le_antisymm orderly.sound.few full⟩
  | @arrives guest rendezvous arrival? there arriving =>
      have received := orderly.sound.received arriving
      have more := received.sound.few
      rw [received.arrived, received.parties] at more
      refine ⟨orderly.replace there received.sound received.parties ?_ received.kept ?_ ?_ ?_ ?_,
        received.kept⟩
      · rw [received.arrived]
        cases arrival? <;> rfl
      · intro held
        rw [received.asleep held]
        exact ⟨List.subset_append_left _ _, fun _ => by simp⟩
      · intro arrival same
        rw [received.said]
        cases arrival? with
        | none => cases same
        | some arrival =>
            cases same
            rfl
      · intro fault same
        cases arrival? <;> cases same
      · intro full
        omega
  | resumes there released =>
      refine ⟨orderly.replace there orderly.sound rfl rfl (fun _ => rfl) ?_ ?_ ?_ id,
        fun _ => rfl⟩
      · exact fun held => by cases released.symm.trans held
      · intro arrival same
        cases same
        exact released
      · intro fault same
        cases same
  | sleepsAgain there awake held => exact absurd (orderly.asleep held _ there) awake
  | forfeits =>
      rcases orderly.sound.forfeit with ⟨sound, released⟩
      have kept : meeting.rendezvous.arrival? ≠ none →
          meeting.rendezvous.forfeit.arrival? = meeting.rendezvous.arrival? := by
        intro released
        rw [orderly.sound.forfeit_eq released]
      refine ⟨⟨sound, ?_, ?_, fun held => absurd held released, ?_, ?_⟩, kept⟩
      · rw [Rendezvous.parties_forfeit, orderly.parties]
      · rw [Rendezvous.arrived_forfeit, orderly.arrived]
      · intro guest arrival there
        have said := orderly.left guest arrival there
        rw [kept (by simp [said]), said]
      · intro guest fault there
        rw [Rendezvous.arrived_forfeit, Rendezvous.parties_forfeit]
        exact orderly.died guest fault there

/-- A guest that does not sleep does not go to sleep when nobody need wait. -/
theorem waiting_of_waiting (orderly : meeting.Orderly parties)
    (happens : Happens meeting happening next) (released : meeting.rendezvous.arrival? ≠ none)
    {guest : Nat} (there : next.guests[guest]? = some .waiting) :
    meeting.guests[guest]? = some .waiting := by
  have others {place : Nat} {after : Guest} (passes : after ≠ .waiting)
      (there : (meeting.guests.set place after)[guest]? = some .waiting) :
      meeting.guests[guest]? = some .waiting := by
    refine forall_of_set (fun index other => other = Guest.waiting →
      meeting.guests[index]? = some .waiting) (absurd · passes) ?_ guest _ there rfl
    rintro index _ - found rfl
    exact found
  cases happens with
  | comes =>
      rcases getElem?_comes there with there | same
      · exact there
      · cases same
  | comesLate => exact others (by simp) there
  | @arrives _ _ arrival? _ arriving =>
      have received := orderly.sound.received arriving
      have said := received.said.symm.trans (received.kept released)
      cases arrival? with
      | none => exact absurd said.symm released
      | some arrival => exact others (by simp [Guest.ofArrival]) there
  | resumes => exact others (by simp) there
  | sleepsAgain _ _ held => exact absurd held released
  | forfeits => exact there

/-- A guest that waits when nobody need wait leaves in its next step. -/
theorem step_of_waiting (orderly : meeting.Orderly parties) {arrival : Arrival}
    (released : meeting.rendezvous.arrival? = some arrival) {guest : Nat}
    (there : meeting.guests[guest]? = some .waiting) (pick : Nat) :
    openSystem.step (.goesOn guest) pick meeting =
      some ({ meeting with guests := meeting.guests.set guest (.left arrival) }, []) := by
  have awake := orderly.sound.awake (by simp [released])
  have resumed : meeting.rendezvous.resume? guest = some (meeting.rendezvous, some arrival) :=
    Rendezvous.resume?_of_arrival? released awake
  simp [openSystem, system, there, Guest.step, resumed, Guest.ofArrival]

/-- A guest that comes when all have arrived dies of that, and nothing else changes. -/
theorem step_of_full (orderly : meeting.Orderly parties)
    (full : meeting.rendezvous.arrived = parties) {guest : Nat}
    (there : meeting.guests[guest]? = some .arriving) (pick : Nat) :
    openSystem.step (.goesOn guest) pick meeting =
      some ({ meeting with guests := meeting.guests.set guest (.died .lateArrival) }, []) := by
  have late : meeting.rendezvous.arrive guest = .error .lateArrival :=
    Rendezvous.arrive_of_le (Nat.le_of_eq (orderly.parties.trans full.symm))
  simp [openSystem, system, there, Guest.step, late]

/-- Guests come in order, and what the rendezvous has said it says for ever. -/
theorem of_run (orderly : meeting.Orderly parties) (fits : parties < Count.limit)
    {events : List Empty} {later : Meeting} (run : openSystem.Run meeting events later) :
    later.Orderly parties ∧ (meeting.rendezvous.arrival? ≠ none →
      later.rendezvous.arrival? = meeting.rendezvous.arrival? ∧
      ∀ guest : Nat, later.guests[guest]? = some .waiting →
        meeting.guests[guest]? = some .waiting) := by
  induction run with
  | refl => exact ⟨orderly, fun _ => ⟨rfl, fun _ => id⟩⟩
  | tail happening pick _ stepped ih =>
      rcases ih with ⟨before, kept⟩
      have happens := happens_of_step (before.parties ▸ fits) stepped
      rcases before.happens happens with ⟨after, said⟩
      refine ⟨after, fun released => ?_⟩
      rcases kept released with ⟨same, awake⟩
      rw [same] at said
      exact ⟨said released, fun guest there =>
        awake guest (before.waiting_of_waiting happens (same ▸ released) there)⟩

end Orderly

/-! ## What the guests can count on -/

/-- What the guests of a meeting of so many parties can count on. -/
structure InAccord (parties : Nat) (meeting : Meeting) : Prop where
  /-- Nobody leaves as if all had arrived before they have. -/
  complete : ∀ guest : Nat, meeting.guests[guest]? = some (.left .complete) →
    meeting.guests.countP (·.hasArrived) = parties
  /-- All guests that have left have left alike. -/
  alike : ∀ (guest other : Nat) (arrival arrival' : Arrival),
    meeting.guests[guest]? = some (.left arrival) →
    meeting.guests[other]? = some (.left arrival') → arrival = arrival'
  /-- The rendezvous is not both complete and forfeited. -/
  exclusive : ¬ (meeting.rendezvous.complete = true ∧ meeting.rendezvous.forfeited = true)
  /-- What it is, it stays. -/
  stays : ∀ (events : List Empty) (later : Meeting), openSystem.Run meeting events later →
    (meeting.rendezvous.complete = true → later.rendezvous.complete = true) ∧
    (meeting.rendezvous.forfeited = true → later.rendezvous.forfeited = true)
  /-- From then on nobody sleeps, whoever still waits leaves in its next step, and nobody comes to
  wait. -/
  released : meeting.rendezvous.complete = true ∨ meeting.rendezvous.forfeited = true →
    meeting.rendezvous.sleepers = [] ∧
    (∀ guest pick : Nat, meeting.guests[guest]? = some .waiting →
      ∃ arrival, openSystem.step (.goesOn guest) pick meeting =
        some ({ meeting with guests := meeting.guests.set guest (.left arrival) }, [])) ∧
    ∀ (events : List Empty) (later : Meeting) (guest : Nat), openSystem.Run meeting events later →
      later.guests[guest]? = some .waiting → meeting.guests[guest]? = some .waiting
  /-- A forfeit changes nothing when the rendezvous is complete. -/
  forfeit : meeting.rendezvous.complete = true → ∀ pick : Nat,
    openSystem.step .forfeits pick meeting = some (meeting, [])
  /-- Not more guests arrive than the rendezvous is for. -/
  few : meeting.rendezvous.arrived = meeting.guests.countP (·.hasArrived) ∧
    meeting.rendezvous.arrived ≤ parties
  /-- Who comes when all have arrived dies of it, and changes nothing else. -/
  late : meeting.rendezvous.arrived = parties → ∀ guest pick : Nat,
    meeting.guests[guest]? = some .arriving →
    openSystem.step (.goesOn guest) pick meeting =
      some ({ meeting with guests := meeting.guests.set guest (.died .lateArrival) }, [])
  /-- Nobody dies of anything else, or before. -/
  died : ∀ (guest : Nat) (fault : Fault), meeting.guests[guest]? = some (.died fault) →
    fault.message = "rendezvous is one-shot" ∧ meeting.rendezvous.arrived = parties

/-- In whatever order guests come, go on and the rendezvous is forfeited, the guests leave in
accord. -/
theorem guests_leave_in_accord {parties : Count} {events : List Empty} {last : Meeting}
    (run : openSystem.Run (.ofParties parties.toNat) events last) :
    last.InAccord parties.toNat := by
  have orderly := ((Orderly.start parties.toNat).of_run parties.toNat_lt run).1
  have sound := orderly.sound
  have said : last.rendezvous.complete = true ∨ last.rendezvous.forfeited = true →
      last.rendezvous.arrival? ≠ none := by
    rintro (complete | forfeited) held
    · cases (Rendezvous.arrival?_eq_none_iff.mp held).1.symm.trans complete
    · cases (Rendezvous.arrival?_eq_none_iff.mp held).2.symm.trans forfeited
  have later {events : List Empty} {later : Meeting} (run : openSystem.Run last events later) :=
    orderly.of_run parties.toNat_lt run
  constructor
  case complete =>
    intro guest there
    have complete := Rendezvous.arrival?_eq_complete_iff.mp (orderly.left guest _ there)
    rw [← orderly.arrived, sound.all complete, orderly.parties]
  case alike =>
    intro guest other arrival arrival' there there'
    have same := (orderly.left guest _ there).symm.trans (orderly.left other _ there')
    exact Option.some.inj same
  case exclusive => exact sound.exclusive
  case stays =>
    intro events next run
    rcases later run with ⟨after, kept⟩
    constructor
    · intro complete
      have now := Rendezvous.arrival?_eq_complete_iff.mpr complete
      rw [← Rendezvous.arrival?_eq_complete_iff, (kept (by simp [now])).1, now]
    · intro forfeited
      have now := sound.arrival?_eq_forfeited_iff.mpr forfeited
      rw [← after.sound.arrival?_eq_forfeited_iff, (kept (by simp [now])).1, now]
  case released =>
    intro open_
    have released := said open_
    rcases Option.ne_none_iff_exists'.mp released with ⟨arrival, now⟩
    refine ⟨sound.awake released, ?_, ?_⟩
    · intro guest pick there
      exact ⟨arrival, orderly.step_of_waiting now there pick⟩
    · intro events next guest run there
      exact ((later run).2 released).2 guest there
  case forfeit =>
    intro complete pick
    simp [openSystem, sound.forfeit_eq (said (Or.inl complete))]
  case few => exact ⟨orderly.arrived, orderly.parties ▸ sound.few⟩
  case late =>
    intro full guest pick there
    exact orderly.step_of_full full there pick
  case died =>
    intro guest fault there
    rcases orderly.died guest fault there with ⟨rfl, full⟩
    exact ⟨rfl, full.trans orderly.parties⟩

/-- The rendezvous of two is forfeited while the first guest sleeps there: the second leaves like the
first, and the third comes too late. -/
theorem guests_leave_in_accord_of_forfeited :
    let two : Count := ⟨2, by decide⟩
    let order : Meeting → List Happening := fun meeting =>
      if meeting.guests = [.waiting] ∧ meeting.rendezvous.forfeited = false then [.forfeits]
      else [.goesOn 0, .goesOn 1, .goesOn 2, .comes]
    let last : Meeting := (openSystem.settle order 8 (.ofParties two.toNat)).1
    last.guests = [.left .forfeited, .left .forfeited, .died .lateArrival] ∧
      last.InAccord two.toNat := by
  intro two order last
  have left : last.guests = [.left .forfeited, .left .forfeited, .died .lateArrival] := by
    decide +kernel
  exact ⟨left, guests_leave_in_accord (System.run_settle _ order 8 (.ofParties two.toNat))⟩

end LineTally.Meeting
