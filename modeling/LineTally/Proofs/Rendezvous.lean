import LineTally.Proofs.Count
import LineTally.Rendezvous

/-!
# Who comes to a rendezvous, and who leaves it

At a rendezvous that nobody forfeits, the last of the parties completes it, and all before it go to
sleep until then.  `Arriving` lists what may come of an arrival when it may have been forfeited.
-/

namespace LineTally.Rendezvous

variable {ι : Type} {rendezvous : Rendezvous ι} {me : ι}

/-- A party that comes in time is counted, and completes the rendezvous, or leaves it, or sleeps. -/
theorem arrive_of_lt (fits : rendezvous.parties < Count.limit)
    (early : rendezvous.arrived < rendezvous.parties) :
    rendezvous.arrive me = .ok
      (if rendezvous.arrived + 1 = rendezvous.parties ∧ !rendezvous.forfeited then
        ({ rendezvous with
            arrived := rendezvous.arrived + 1
            complete := true
            sleepers := [] },
          some .complete)
      else
        match rendezvous.arrival? with
        | some arrival => ({ rendezvous with arrived := rendezvous.arrived + 1 }, some arrival)
        | none =>
            ({ rendezvous with
                arrived := rendezvous.arrived + 1
                sleepers := rendezvous.sleepers ++ [me] },
              none)) := by
  have counted := Count.fitting_of_lt (by omega : rendezvous.arrived + 1 < Count.limit)
  have asked : ({ rendezvous with arrived := rendezvous.arrived + 1 } : Rendezvous ι).arrival? =
      rendezvous.arrival? := rfl
  unfold arrive
  rw [if_neg (Nat.not_le.mpr early), counted]
  simp only [Bind.bind, Except.bind, pure, Except.pure, asked]
  split
  · rfl
  · cases rendezvous.arrival? <;> rfl

/-- The last party completes the rendezvous and wakes the others. -/
theorem arrive_last (fits : rendezvous.parties < Count.limit)
    (kept : rendezvous.forfeited = false)
    (last : rendezvous.arrived + 1 = rendezvous.parties) :
    rendezvous.arrive me = .ok
      ({ rendezvous with
          arrived := rendezvous.arrived + 1
          complete := true
          sleepers := [] },
        some .complete) := by
  rw [arrive_of_lt fits (by omega), if_pos ⟨last, by simp [kept]⟩]

/-- A party before the last goes to sleep. -/
theorem arrive_early (fits : rendezvous.parties < Count.limit)
    (kept : rendezvous.forfeited = false) (open_ : rendezvous.complete = false)
    (early : rendezvous.arrived + 1 < rendezvous.parties) :
    rendezvous.arrive me = .ok
      ({ rendezvous with
          arrived := rendezvous.arrived + 1
          sleepers := rendezvous.sleepers ++ [me] },
        none) := by
  have held : rendezvous.arrival? = none := by simp [arrival?, kept, open_]
  rw [arrive_of_lt fits (by omega), if_neg (by omega), held]

/-! ## Every arrival -/

/-- Nobody need wait at a rendezvous that is complete or forfeited, and at no other. -/
theorem arrival?_eq_none_iff :
    rendezvous.arrival? = none ↔ rendezvous.complete = false ∧ rendezvous.forfeited = false := by
  unfold arrival?
  cases rendezvous.complete <;> cases rendezvous.forfeited <;> simp

theorem arrival?_eq_complete_iff :
    rendezvous.arrival? = some .complete ↔ rendezvous.complete = true := by
  unfold arrival?
  cases rendezvous.complete <;> cases rendezvous.forfeited <;> simp

/-- Whoever wakes up where nobody need wait leaves. -/
theorem resume?_of_arrival? [DecidableEq ι] {arrival : Arrival}
    (released : rendezvous.arrival? = some arrival) (awake : rendezvous.sleepers = []) :
    rendezvous.resume? me = some (rendezvous, some arrival) := by
  simp [resume?, awake, released]

/-- What may come of an arrival: the rendezvous after it, and how the party leaves if it need not
wait. -/
inductive Arriving (rendezvous : Rendezvous ι) (me : ι) :
    Except Fault (Rendezvous ι × Option Arrival) → Prop where
  | late (full : rendezvous.parties ≤ rendezvous.arrived) :
      Arriving rendezvous me (.error .lateArrival)
  | last (kept : rendezvous.forfeited = false)
      (last : rendezvous.arrived + 1 = rendezvous.parties) :
      Arriving rendezvous me (.ok
        ({ rendezvous with
            arrived := rendezvous.arrived + 1
            complete := true
            sleepers := [] },
          some .complete))
  | passes {arrival : Arrival} (early : rendezvous.arrived < rendezvous.parties)
      (released : rendezvous.arrival? = some arrival) :
      Arriving rendezvous me
        (.ok ({ rendezvous with arrived := rendezvous.arrived + 1 }, some arrival))
  | sleeps (early : rendezvous.arrived + 1 < rendezvous.parties)
      (held : rendezvous.arrival? = none) :
      Arriving rendezvous me (.ok
        ({ rendezvous with
            arrived := rendezvous.arrived + 1
            sleepers := rendezvous.sleepers ++ [me] },
          none))

/-- Nobody may come when all parties have arrived. -/
theorem arrive_of_le (full : rendezvous.parties ≤ rendezvous.arrived) :
    rendezvous.arrive me = .error .lateArrival := by
  unfold arrive
  rw [if_pos full]
  rfl

theorem arriving (rendezvous : Rendezvous ι) (me : ι)
    (fits : rendezvous.parties < Count.limit) : Arriving rendezvous me (rendezvous.arrive me) := by
  by_cases full : rendezvous.parties ≤ rendezvous.arrived
  · rw [arrive_of_le full]
    exact .late full
  · have early : rendezvous.arrived < rendezvous.parties := Nat.not_le.mp full
    rw [arrive_of_lt fits early]
    split
    next last => exact .last (by simpa using last.2) last.1
    next notLast =>
      split
      next arrival released => exact .passes early released
      next held =>
        have kept := (arrival?_eq_none_iff.mp held).2
        exact .sleeps (by simp [kept] at notLast; omega) held

/-! ## What holds at every rendezvous -/

@[simp] theorem parties_forfeit : rendezvous.forfeit.parties = rendezvous.parties := by
  unfold forfeit
  split <;> rfl

@[simp] theorem arrived_forfeit : rendezvous.forfeit.arrived = rendezvous.arrived := by
  unfold forfeit
  split <;> rfl

/-- What holds of a rendezvous whatever has happened there. -/
structure Sound (rendezvous : Rendezvous ι) : Prop where
  few : rendezvous.arrived ≤ rendezvous.parties
  exclusive : ¬ (rendezvous.complete = true ∧ rendezvous.forfeited = true)
  all : rendezvous.complete = true → rendezvous.arrived = rendezvous.parties
  more : rendezvous.arrival? = none → rendezvous.arrived < rendezvous.parties
  awake : rendezvous.arrival? ≠ none → rendezvous.sleepers = []

/-- What an arrival changes: how the party leaves, if it need not wait, is what the rendezvous says
from then on, and nothing else is said than before. -/
structure Received (before : Rendezvous ι) (me : ι) (after : Rendezvous ι)
    (arrival? : Option Arrival) : Prop where
  sound : after.Sound
  parties : after.parties = before.parties
  arrived : after.arrived = before.arrived + 1
  said : after.arrival? = arrival?
  kept : before.arrival? ≠ none → after.arrival? = before.arrival?
  asleep : after.arrival? = none → after.sleepers = before.sleepers ++ [me]

namespace Sound

theorem ofParties (parties : Nat) : (Rendezvous.ofParties parties : Rendezvous ι).Sound where
  few := Nat.zero_le _
  exclusive both := by cases both.2
  all complete := (beq_iff_eq.mp complete).symm
  more held := Nat.pos_of_ne_zero (beq_eq_false_iff_ne.mp (arrival?_eq_none_iff.mp held).1)
  awake _ := rfl

/-- Nothing but the end of the waiting comes of an arrival. -/
theorem received (sound : rendezvous.Sound) {after : Rendezvous ι} {arrival? : Option Arrival}
    (arriving : Arriving rendezvous me (.ok (after, arrival?))) :
    rendezvous.Received me after arrival? := by
  cases arriving with
  | last kept last =>
      -- Before the last of the parties came, the rendezvous was not complete.
      have held : rendezvous.arrival? = none := by
        rw [arrival?_eq_none_iff]
        refine ⟨?_, kept⟩
        by_contra complete
        have all := sound.all (by simpa using complete)
        omega
      exact {
        sound := {
          few := Nat.le_of_eq last
          exclusive := fun both => by simp [kept] at both
          all := fun _ => last
          more := fun open_ => by simp [arrival?] at open_
          awake := fun _ => rfl }
        parties := rfl
        arrived := rfl
        said := by simp [Rendezvous.arrival?]
        kept := fun released => absurd held released
        asleep := fun open_ => by simp [Rendezvous.arrival?] at open_ }
  | passes early released =>
      have open_ : rendezvous.complete ≠ true := fun complete => by
        have all := sound.all complete
        omega
      exact {
        sound := {
          few := early
          exclusive := sound.exclusive
          all := fun complete => absurd complete open_
          more := fun held => by cases released.symm.trans held
          awake := sound.awake }
        parties := rfl
        arrived := rfl
        said := released
        kept := fun _ => rfl
        asleep := fun held => by cases released.symm.trans held }
  | sleeps early held =>
      have open_ : rendezvous.complete = false := (arrival?_eq_none_iff.mp held).1
      exact {
        sound := {
          few := by
            change rendezvous.arrived + 1 ≤ rendezvous.parties
            omega
          exclusive := sound.exclusive
          all := fun complete => by cases open_.symm.trans complete
          more := fun _ => early
          awake := fun released => absurd held released }
        parties := rfl
        arrived := rfl
        said := held
        kept := fun released => absurd held released
        asleep := fun _ => rfl }

theorem arrival?_eq_forfeited_iff (sound : rendezvous.Sound) :
    rendezvous.arrival? = some .forfeited ↔ rendezvous.forfeited = true := by
  have exclusive := sound.exclusive
  unfold arrival?
  cases complete : rendezvous.complete <;> cases forfeited : rendezvous.forfeited <;>
    simp_all

/-- Nothing comes of forfeiting a rendezvous that is complete, or was forfeited before. -/
theorem forfeit_eq (sound : rendezvous.Sound) (released : rendezvous.arrival? ≠ none) :
    rendezvous.forfeit = rendezvous := by
  unfold Rendezvous.forfeit
  split
  next => rfl
  next open_ =>
    have forfeited : rendezvous.forfeited = true := by
      by_contra kept
      exact released (arrival?_eq_none_iff.mpr ⟨by simpa using open_, by simpa using kept⟩)
    rw [← forfeited, ← sound.awake released]

/-- Nobody waits behind a forfeit. -/
theorem forfeit (sound : rendezvous.Sound) :
    rendezvous.forfeit.Sound ∧ rendezvous.forfeit.arrival? ≠ none := by
  by_cases held : rendezvous.arrival? = none
  · have open_ : rendezvous.complete = false := (arrival?_eq_none_iff.mp held).1
    have after : rendezvous.forfeit = { rendezvous with forfeited := true, sleepers := [] } := by
      simp [Rendezvous.forfeit, open_]
    have released : rendezvous.forfeit.arrival? ≠ none := by simp [after, arrival?, open_]
    rw [after] at released ⊢
    exact ⟨{
      few := sound.few
      exclusive := fun both => by cases open_.symm.trans both.1
      all := fun complete => by cases open_.symm.trans complete
      more := fun held => absurd held released
      awake := fun _ => rfl }, released⟩
  · rw [sound.forfeit_eq held]
    exact ⟨sound, held⟩

end Sound

end LineTally.Rendezvous
