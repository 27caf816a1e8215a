import LineTally.Command.Run
import LineTally.Proofs.Lines.Delivery
import LineTally.Proofs.Scan.Settling

/-!
# How the command can end

A scan that the command carries out ends in one of two ways: it is over, whatever the order in which
its threads took their steps and wherever the first interruption fell; or a second interruption ends
it at once.  What the command comes to on a machine is one of these endings.
-/

namespace LineTally

namespace Scan

theorem Plan.check_eq_ok_iff {plan : Plan} :
    plan.check = .ok () ↔ 0 < plan.capacity ∧ 0 < plan.workers ∧ plan.term ≠ "" := by
  simp only [check, String.isEmpty_iff]
  split_ifs <;> simp [*, Nat.pos_iff_ne_zero]

/-- What has been set up was checked before. -/
theorem Plan.check_of_setUp {plan : Plan} (ready : plan.setUp = .ok ()) : plan.check = .ok () := by
  unfold setUp at ready
  cases checked : plan.check with
  | ok => rfl
  | error =>
      rw [checked] at ready
      cases ready

end Scan

namespace Command

/-! ## Scans for the command -/

/-- A scan for the command to carry out. -/
structure Task where
  settings : Settings
  options : Options
  term : String
  /-- What is to be read. -/
  input : Lines.Splitter
  deriving DecidableEq

namespace Task

variable (task : Task)

def plan : Scan.Plan := task.options.plan task.settings task.term

def display : Display := task.options.display task.settings

/-- The test that is asked for; it only answers. -/
def around : Scan.Surroundings := { predicate := .ofTest task.plan.search.holds }

/-- The start of the scan.  Of all interruptions only the first asks for shutdown. -/
def start (interruptions : Nat) : Scan.State :=
  .start task.plan.capacity task.plan.workers (Scan.Feed.ofSplitter task.input)
    (min interruptions 1)

/-- The number of lines that may wait. -/
def capacity : Count := task.options.capacity.getD task.settings.capacity

/-- The number of workers. -/
def workers : Count := task.options.workers.getD task.settings.workers

theorem plan_capacity : task.plan.capacity = task.capacity.toNat := by
  rw [plan, capacity, Options.plan]
  cases task.options.capacity <;> rfl

theorem plan_workers : task.plan.workers = task.workers.toNat := by
  rw [plan, workers, Options.plan]
  cases task.options.workers <;> rfl

theorem start_eq (interruptions : Nat) : task.start interruptions =
    .start task.capacity.toNat task.workers.toNat (Scan.Feed.ofSplitter task.input)
      (min interruptions 1) := by
  rw [start, plan_capacity, plan_workers]

theorem shutsDown : task.around.ShutsDown := fun _ _ asked => absurd asked List.not_mem_nil

variable {task} (valid : task.plan.check = .ok ())
include valid

theorem capacity_pos : 0 < task.capacity.toNat :=
  task.plan_capacity ▸ (Scan.Plan.check_eq_ok_iff.mp valid).1

theorem workers_pos : 0 < task.workers.toNat :=
  task.plan_workers ▸ (Scan.Plan.check_eq_ok_iff.mp valid).2.1

theorem term_ne_empty : task.term ≠ "" :=
  (Scan.Plan.check_eq_ok_iff.mp valid).2.2

end Task

/-! ## Their endings -/

/-- What is to be seen when the command ends. -/
structure Ending where
  /-- What happened in the scan. -/
  events : List Scan.Event
  /-- What the scan came to, if it was over. -/
  report : Option Report
  /-- What has been written to the output. -/
  output : String
  code : Nat

def Ending.ofOutcome (events : List Scan.Event) (report : Option Report) (outcome : Outcome) :
    Ending where
  events
  report
  output := outcome.console.output
  code := outcome.code

/-- What a scan came to, which was over at that time. -/
def Clock.report (clock : Clock) (summary : Summary) : Report :=
  { summary with elapsedMs := clock.elapsedMs, finishedAt := clock.finishedAt }

/-- The endings of a task that may be interrupted so many times.  Its threads take their steps in
any order, and interruptions come at any time. -/
inductive Task.Ends (task : Task) (interruptions : Nat) : Ending → Prop where
  /-- The scan is over.  What has been written to the output before is what was written while it
  went on. -/
  | completed {events : List Scan.Event} {last : Scan.State} (clock : Clock)
      (run : (Scan.system task.around).Run (task.start interruptions) events last)
      (atEnd : last.coordinator.isOver = true) {before : Console}
      (written : before.output = (task.display.events events).output) :
      Ends task interruptions (.ofOutcome events (last.summary?.map clock.report)
        ((task.display.finish clock last).behind before))
  /-- The second interruption ends the command at once. -/
  | abandoned {events : List Scan.Event} {last : Scan.State} (again : 1 < interruptions)
      (run : (Scan.system task.around).Run (task.start interruptions) events last)
      (before : Console) :
      Ends task interruptions (.ofOutcome events none (abandoned.behind before))

/-! ## What the command comes to -/

/-- The bytes that are to be read on a machine, and how reading fails behind them, if it does. -/
def Host.contents (host : Host) (file : Option String) : List UInt8 × Option IoError :=
  match filePath? file with
  | none =>
    let later := if host.input.interruptions = 0 then [] else host.input.later
    (host.input.bytes ++ later, none)
  | some path =>
    match host.files path with
    | some (.file bytes) => (bytes, none)
    | some .directory => ([], some .isDirectory)
    | some (.barred error) => ([], some error)
    | none => ([], some .notFound)

/-- What the command reads on a machine, and how often it is interrupted in the meantime. -/
def Host.input? (host : Host) (file : Option String) : Option (Lines.Splitter × Nat) :=
  match filePath? file with
  | none => some (.ofBytes (host.contents file).1, host.input.interruptions)
  | some path =>
    match FileNode.openLines (host.files path) with
    | .ok input => some (input, 0)
    | .error _ => none

/-- The task that the command has on a machine when it is called with some arguments, if it can be
set up, and how often it is interrupted. -/
def Host.task? (host : Host) (arguments : List String) : Option (Task × Nat) :=
  match request host.environment arguments with
  | .ok { options, job := .scan term file } =>
    match host.settings options, host.input? file with
    | .ok (settings, _), some (input, interruptions) =>
      let task : Task := { settings, options, term, input }
      match task.plan.setUp with
      | .ok () => some (task, interruptions)
      | .error _ => none
    | _, _ => none
  | _ => none

@[simp] theorem Console.output_append (earlier later : Console) :
    (earlier ++ later).output = earlier.output ++ later.output := rfl

/-- What is written while a scan goes on is written bit by bit. -/
theorem Display.output_events_append (display : Display) (before after : List Scan.Event) :
    (display.events (before ++ after)).output =
      (display.events before).output ++ (display.events after).output := by
  induction after using List.reverseRecOn with
  | nil => simp [events]
  | append_singleton after event ih =>
      rw [← List.append_assoc]
      simp only [events, List.foldl_append, List.foldl_cons, List.foldl_nil,
        Console.output_append] at ih ⊢
      rw [ih, String.append_assoc]

namespace Task

variable {task : Task} (valid : task.plan.check = .ok ())
include valid

/-- Carrying on from wherever the scan has come to leads to one of the endings. -/
theorem ends_of_settle {interruptions : Nat} {events : List Scan.Event} {state : Scan.State}
    (run : (Scan.system task.around).Run (task.start interruptions) events state) (clock : Clock)
    {before : Console} :
    let rest := (Scan.system task.around).settle Scan.State.readingOrder
      ((task.start interruptions).budget task.around) state
    before.output = (task.display.events (events ++ rest.2)).output →
    ∃ events report, task.Ends interruptions
      (.ofOutcome events report ((task.display.finish clock rest.1).behind before)) := by
  intro rest written
  have further := run.trans (System.run_settle (Scan.system task.around) Scan.State.readingOrder
    ((task.start interruptions).budget task.around) state)
  have atEnd : rest.1.Over task.around := by
    simp only [rest, start_eq] at run ⊢
    exact Scan.over_of_settle task.shutsDown (capacity_pos valid) (workers_pos valid) run
  exact ⟨_, _, .completed clock further (atEnd.hasFinished .coordinator) written⟩

/-- Without interruptions. -/
theorem ends_of_run (clock : Clock) :
    ∃ events report, task.Ends 0 (.ofOutcome events report
      (task.display.run clock task.around (task.start 0))) :=
  ends_of_settle valid (.refl (task.start 0)) clock rfl

/-- With interruptions while the source has nothing yet of its last things. -/
theorem ends_of_runInterrupted (clock : Clock) (later more : Nat) :
    ∃ events report, task.Ends (more + 1) (.ofOutcome events report
      (task.display.runInterrupted clock task.around later (0 < more)
        (task.start (more + 1)))) := by
  have early := Scan.run_of_waitingSystem_run (System.run_settle
    (Scan.waitingSystem task.around later) Scan.State.innerOrder
    ((task.start (more + 1)).budget task.around) (task.start (more + 1)))
  unfold Display.runInterrupted
  dsimp only
  generalize (Scan.waitingSystem task.around later).settle Scan.State.innerOrder
    ((task.start (more + 1)).budget task.around) (task.start (more + 1)) = still at early ⊢
  split
  next atEnd => exact ⟨_, _, .completed clock early atEnd rfl⟩
  next =>
    have asked := early.trans (Scan.run_of_waitingSystem_run (System.run_settle
      (Scan.waitingSystem task.around later) Scan.State.order
      ((task.start (more + 1)).budget task.around) still.1))
    split
    next again => exact ⟨_, _, .abandoned (by simpa using again) asked _⟩
    next =>
      apply ends_of_settle valid asked clock
      simp [Display.output_events_append, interruptionNotice, String.append_assoc]

end Task

/-- Whatever the command can open, it gets what is there. -/
theorem Host.brings_of_input? {host : Host} {file : Option String} {input : Lines.Splitter}
    {times : Nat} (read : host.input? file = some (input, times)) :
    input.Brings (host.contents file).1 (host.contents file).2 := by
  have ofBytes (bytes : List UInt8) : (Lines.Splitter.ofBytes bytes).Brings bytes none :=
    .reads (Lines.delivers_data bytes) (by decide)
  unfold input? at read
  unfold contents at read ⊢
  cases named : filePath? file with
  | none =>
      simp only [named] at read ⊢
      cases read
      exact ofBytes _
  | some path =>
      simp only [named] at read ⊢
      generalize host.files path = node at read ⊢
      match node with
      | none | some (.barred error) => cases read
      | some (.file bytes) =>
          cases read
          exact ofBytes bytes
      | some .directory =>
          cases read
          exact .failing rfl

theorem Host.ends_of_scanInput {host : Host} {task : Task} (valid : task.plan.check = .ok ())
    (input : task.input = .ofBytes (host.input.bytes ++
      if host.input.interruptions = 0 then [] else host.input.later)) :
    ∃ events report, task.Ends host.input.interruptions
      (.ofOutcome events report (host.scanInput task.display task.plan task.around)) := by
  rw [scanInput]
  cases times : host.input.interruptions with
  | zero =>
      rw [times, if_pos rfl, List.append_nil] at input
      rw [← input]
      exact Task.ends_of_run valid host.clock
  | succ more =>
      rw [times, if_neg (Nat.succ_ne_zero more)] at input
      have start : task.start (more + 1) = .start task.plan.capacity task.plan.workers
          (Scan.Feed.ofSplitter task.input) 1 := by
        rw [Task.start, Nat.min_eq_right (Nat.le_add_left 1 more)]
      dsimp only
      rw [← input, ← start]
      exact Task.ends_of_runInterrupted valid host.clock _ more

theorem Host.ends_of_scanFile {host : Host} {task : Task} (valid : task.plan.check = .ok ())
    {path : String} (opened : FileNode.openLines (host.files path) = .ok task.input) :
    ∃ events report, task.Ends 0
      (.ofOutcome events report (host.scanFile task.display task.plan task.around path)) := by
  rw [scanFile, opened]
  exact Task.ends_of_run valid host.clock

/-- What a scan comes to on a machine is one of the endings of its task. -/
theorem Host.ends_of_scan {host : Host} {task : Task} {file : Option String}
    {interruptions : Nat} (ready : task.plan.setUp = .ok ())
    (read : host.input? file = some (task.input, interruptions)) :
    ∃ events report, task.Ends interruptions
      (.ofOutcome events report (host.scan task.display task.plan file)) := by
  have valid := Scan.Plan.check_of_setUp ready
  rw [Host.scan, ready]
  dsimp only
  rw [input?] at read
  cases named : filePath? file with
  | none =>
      simp only [named, contents, Option.some.injEq, Prod.mk.injEq] at read
      rcases read with ⟨input, rfl⟩
      exact ends_of_scanInput valid input.symm
  | some path =>
      simp only [named] at read
      split at read
      next input opened =>
        cases read
        exact ends_of_scanFile valid opened
      next => cases read

/-- A task that the command has on a machine can be carried out, and what the command comes to is
one of its endings. -/
theorem Host.ends_of_task? {host : Host} {arguments : List String} {task : Task}
    {interruptions : Nat} (asked : host.task? arguments = some (task, interruptions)) :
    (∃ file log, request host.environment arguments = .ok ⟨task.options, .scan task.term file⟩ ∧
      host.settings task.options = .ok (task.settings, log) ∧
      task.input.Brings (host.contents file).1 (host.contents file).2) ∧
    task.plan.check = .ok () ∧
    ∃ events report, task.Ends interruptions (.ofOutcome events report (host.run arguments)) := by
  unfold task? at asked
  split at asked
  next options term file requested =>
    split at asked
    next settings log input times held read =>
      dsimp only at asked
      split at asked
      next ready =>
        cases asked
        rcases ends_of_scan ready read with ⟨events, report, ends⟩
        refine ⟨⟨file, log, requested, held, brings_of_input? read⟩,
          Scan.Plan.check_of_setUp ready, events, report, ?_⟩
        simp only [Host.run, requested, held, Host.perform, Ending.ofOutcome, Outcome.behind,
          Console.output_append, String.empty_append]
        exact ends
      next => cases asked
    next => cases asked
  next => cases asked

end Command

end LineTally
