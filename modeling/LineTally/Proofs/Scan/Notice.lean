import LineTally.Proofs.Scan.Outcome

/-!
# The notice of the last worker

Only the last worker to stop may say that all of them have stopped before the input was drained, and
it says so once.  What has been said already and who may say it yet are counted together, and no
step adds to them: there is nobody yet who may say it as long as a worker is in the ranks of the
living, and one worker at most is the last to leave them.
-/

namespace LineTally

open Queue

/-- A request for shutdown is not logged as a warning. -/
theorem Queue.Acting.level_ne_warn {ι α : Type} [DecidableEq ι] {queue : Queue ι α} {me : ι}
    {acting : Acting} {acted : Acted ι α} (stepped : acting.step queue me = some acted) :
    ∀ line ∈ acted.log, line.level ≠ .warn := by
  cases acting with
  | raisingFlag =>
      cases stepped
      exact nofun
  | cancelling call | ending call =>
      rcases Option.map_eq_some_iff.mp stepped with ⟨move, -, rfl⟩
      split <;> exact nofun
  | shuttingDown call =>
      rcases Option.map_eq_some_iff.mp stepped with ⟨move, -, rfl⟩
      split
      · exact nofun
      · intro line member
        unfold shutdownNotice at member
        split at member
        · rw [List.mem_singleton.mp member]
          exact nofun
        · cases member

/-- What a consumer writes to the log is not a warning. -/
theorem Consumer.level_ne_warn {ι : Type} [DecidableEq ι] {predicate : Predicate} {index : Count}
    {queue : Queue ι String} {me : ι} {pick : Nat} {consumer : Consumer} {step : Step ι}
    (stepped : consumer.step predicate index queue me pick = some step) :
    ∀ line ∈ step.log, line.level ≠ .warn := by
  have failing (counts : Counts) : ∀ line ∈ (fail queue index counts).log, line.level ≠ .warn := by
    intro line member
    rw [List.mem_singleton.mp member]
    exact nofun
  cases consumer with
  | popping counts pop =>
      rcases Option.map_eq_some_iff.mp stepped with ⟨move, -, rfl⟩
      split
      · exact nofun
      · unfold afterPop
        split
        · exact failing counts
        · exact nofun
        · exact nofun
  | testing counts line actions =>
      cases actions with
      | cons action actions =>
          cases stepped
          exact nofun
      | nil =>
          cases stepped
          unfold judge
          split
          · exact failing counts
          · split
            · exact failing _
            · exact nofun
  | acting counts line actions inside =>
      rcases Option.map_eq_some_iff.mp stepped with ⟨acted, moved, rfl⟩
      have quiet := Acting.level_ne_warn moved
      split <;> exact quiet
  | finished tally => cases stepped

/-- A slot that does not take a tally is not logged as a warning. -/
theorem Slots.level_ne_warn (slots : Slots) (tally : WorkerTally) :
    ∀ line ∈ (slots.record tally).2, line.level ≠ .warn := by
  have failing (message : String) : ∀ line ∈ [LogLine.mk .error message],
      line.level ≠ .warn := by
    intro line member
    rw [List.mem_singleton.mp member]
    exact nofun
  unfold record
  split
  · exact nofun
  · exact failing _
  · exact failing _

namespace Scan

/-! ## The log -/

/-- The lines of the log, in order. -/
def logged (events : List Event) : List LogLine :=
  events.filterMap fun event =>
    match event with
    | .logged line => some line
    | _ => none

@[simp] theorem logged_append (before after : List Event) :
    logged (before ++ after) = logged before ++ logged after :=
  List.filterMap_append

@[simp] theorem logged_map_logged (log : List LogLine) : logged (log.map .logged) = log := by
  simp [logged, List.filterMap_map]

@[simp] theorem logged_ofTransfer (worker : Nat) (transfer : Option (Transfer String)) :
    logged (transfer.map (Event.ofTransfer worker)).toList = [] := by
  rcases transfer with none | (item | item) <;> rfl

theorem logged_consumerEvents (index : Nat) (before : Consumer) (step : Consumer.Step Thread) :
    logged (Worker.consumerEvents index before step) = step.log := by
  unfold Worker.consumerEvents
  simp only [logged_append, logged_ofTransfer, logged_map_logged]
  split <;> split <;> simp [logged]

theorem logged_readerEvents (before : Reader) (step : Reader.Step Thread) :
    logged (readerEvents before step) = step.log := by
  unfold readerEvents
  simp only [logged_append, logged_ofTransfer, logged_map_logged]
  split <;> split <;> simp [logged]

/-- The notice is a warning. -/
theorem count_notice_eq_zero {log : List LogLine} (levels : ∀ line ∈ log, line.level ≠ .warn) :
    log.count abandonedNotice = 0 := by
  apply List.count_eq_zero.mpr
  intro member
  exact levels _ member rfl

/-- The reader warns of other things. -/
theorem failureNotice_ne (reading : Reading) (message : String) :
    Reader.failureNotice reading message ≠ abandonedNotice := by
  intro same
  have first := congrArg (fun line : LogLine => line.message.toList.head?) same
  simp only [Reader.failureNotice, abandonedNotice, String.toList_append,
    List.append_assoc] at first
  cases first

theorem count_notice_of_reader_step {ι : Type} [DecidableEq ι] {queue : Queue ι String} {me : ι}
    {pick : Nat} {reader : Reader} {step : Reader.Step ι}
    (stepped : reader.step queue me pick = some step) : step.log.count abandonedNotice = 0 := by
  cases reader with
  | checking rest reading =>
      simp only [Reader.step] at stepped
      split at stepped <;> cases stepped <;> rfl
  | asking rest reading =>
      cases stepped
      cases rest with
      | nil => rfl
      | cons entry rest =>
          cases entry with
          | failure message =>
              rw [List.count_eq_zero]
              intro member
              exact failureNotice_ne reading message (List.mem_singleton.mp member).symm
          | line | fault | act => rfl
  | acting rest reading inside =>
      rcases Option.map_eq_some_iff.mp stepped with ⟨acted, moved, rfl⟩
      have quiet := count_notice_eq_zero (Acting.level_ne_warn moved)
      split <;> exact quiet
  | pushing rest reading push =>
      rcases Option.map_eq_some_iff.mp stepped with ⟨move, -, rfl⟩
      cases move.progress with
      | «at» next => rfl
      | returned result =>
          dsimp only
          unfold Reader.afterPush
          split
          · split <;> rfl
          · rfl
          · change [Reader.closedNotice].count abandonedNotice = 0
            decide
          · rfl
  | ending result mark =>
      rcases Option.map_eq_some_iff.mp stepped with ⟨move, -, rfl⟩
      split <;> rfl
  | finished result => cases stepped

theorem Coordinator.Turn.count_notice {state : State} {before after : Coordinator}
    {events : List Event} (turn : Turn state before after events) :
    (logged events).count abandonedNotice = 0 := by
  cases turn with
  | losesReader => decide
  | joinsDead =>
      apply count_notice_eq_zero
      intro line member
      rw [List.mem_singleton.mp member]
      exact nofun
  | @announces reading => cases reading.error <;> rfl
  | _ => rfl

/-! ## Who may say it -/

/-- The worker is the last to stop, and may say so. -/
def Worker.isDue : Worker → Bool
  | .probing | .checking => true
  | _ => false

/-- A worker says it at most if it is due, and then it is due no more; only the last of the living
comes to be due. -/
theorem Worker.Turn.due {around : Surroundings} {shared next : Shared} {number : Count}
    {worker after : Worker} {events : List Event}
    (turn : Worker.Turn around shared number worker next after events) :
    (logged events).count abandonedNotice + (if after.isDue then 1 else 0) ≤
          (if worker.isDue then 1 else 0) ∧ after.hasLeft = worker.hasLeft ∨
      (logged events).count abandonedNotice = 0 ∧ worker.isDue = false ∧
        worker.hasLeft = false ∧ after.hasLeft = true ∧
        (after.isDue = true → shared.live = 1) := by
  have arrives := afterRendezvous_of
    (fun worker => worker.isDue = false ∧ worker.hasLeft = true) ⟨rfl, rfl⟩ ⟨rfl, rfl⟩ number.toNat
  cases turn with
  | consumes stepped =>
      left
      rw [logged_consumerEvents, count_notice_eq_zero (Consumer.level_ne_warn stepped)]
      exact ⟨Nat.le_refl 0, rfl⟩
  | @records tally =>
      left
      rw [logged_map_logged, count_notice_eq_zero (Slots.level_ne_warn shared.slots tally)]
      exact ⟨Nat.le_refl 0, rfl⟩
  | leaves => exact Or.inr ⟨rfl, rfl, rfl, rfl, nofun⟩
  | leavesLast last => exact Or.inr ⟨rfl, rfl, rfl, rfl, fun _ => last⟩
  | abandons => exact Or.inl ⟨by decide, rfl⟩
  | publishesAgain => exact Or.inl ⟨Nat.le_refl 0, rfl⟩
  | findsEnd | findsFlag => exact Or.inl ⟨Nat.zero_le 1, rfl⟩
  | meets | resumes =>
      left
      rw [(arrives _).1, (arrives _).2]
      exact ⟨Nat.le_refl 0, rfl⟩
  | _ => exact Or.inl ⟨Nat.le_refl _, rfl⟩

/-- The notice has been given, somebody may give it, or somebody is still to leave: at most one of
these. -/
def State.Noticed (events : List Event) (state : State) : Prop :=
  (logged events).count abandonedNotice + state.workers.countP (·.isDue) +
    min 1 (state.workers.countP (!·.hasLeft)) ≤ 1

theorem State.Noticed.start (capacity workers : Nat) (source : List Feed) (requests : Nat) :
    (State.start capacity workers source requests).Noticed [] := by
  simp only [State.Noticed, State.start, List.countP_replicate]
  exact Nat.le_trans (Nat.le_of_eq (Nat.zero_add _)) (Nat.min_le_left ..)

theorem State.Noticed.step {around : Surroundings} {state next : State} {thread : Thread}
    {before events : List Event} (noticed : state.Noticed before) (ranked : state.Ranked)
    (moved : Moved around state thread next events) : next.Noticed (before ++ events) := by
  have silently (quiet : (logged events).count abandonedNotice = 0)
      (same : next.workers = state.workers) : next.Noticed (before ++ events) := by
    rw [State.Noticed, logged_append, List.count_append, quiet, Nat.add_zero, same]
    exact noticed
  cases moved with
  | reader stepped =>
      refine silently ?_ rfl
      rw [logged_readerEvents]
      exact count_notice_of_reader_step stepped
  | @requester index inside acted there stepped =>
      refine silently ?_ rfl
      have granting : logged (Requester.after acted.progress).2 = [] := by
        cases acted.progress <;> rfl
      rw [logged_append, logged_map_logged, granting, List.append_nil]
      exact count_notice_eq_zero (Acting.level_ne_warn stepped)
  | coordinator stepped => exact silently (Coordinator.turn stepped).count_notice rfl
  | @worker _ worker step number there stepped =>
      have due := countP_set_add there step.worker (·.isDue)
      have living := countP_set_add there step.worker (!·.hasLeft)
      have live := ranked.live
      unfold State.Noticed at noticed ⊢
      rw [logged_append, List.count_append]
      dsimp only
      rcases (Worker.turn stepped).due with ⟨fewer, left⟩ | ⟨quiet, idle, here, gone, last⟩
      · simp only [left, Nat.add_right_cancel_iff] at living
        omega
      · simp only [idle, here, gone, Bool.not_true, Bool.not_false, if_true, Bool.false_eq_true,
          if_false] at due living
        rw [quiet]
        cases comes : step.worker.isDue with
        | true =>
            have alone := last comes
            simp only [comes, if_true] at due
            omega
        | false =>
            simp only [comes, Bool.false_eq_true, if_false] at due
            omega

/-- The last worker gives notice at most once in a scan. -/
theorem count_notice_le_one {around : Surroundings} (only : around.ShutsDown)
    {capacity workers : Count} (positive : 0 < capacity.toNat) {source : List Feed}
    {requests : Nat} {events : List Event} {last : State}
    (run : (system around).Run (State.start capacity.toNat workers.toNat source requests)
      events last) : (logged events).count abandonedNotice ≤ 1 := by
  have noticed : last.Noticed events := by
    induction run with
    | refl => exact .start _ _ _ _
    | tail thread pick before stepped ih =>
        exact ih.step (sound_of_run only positive before).ranked (moved_of_step stepped)
  unfold State.Noticed at noticed
  omega

end Scan

end LineTally
