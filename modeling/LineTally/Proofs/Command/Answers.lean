import LineTally.Proofs.Command.Endings
import LineTally.Proofs.Scan.Uncut
import LineTally.Proofs.Search

/-!
# What the command's answer says

The code with which the command ends tells what its answer is worth.  If it says that all went well,
the total is the number of all lines with the term; if it says that the scan was interrupted, the
total is that of a beginning of the lines; and a failure of the stream is never passed over.
-/

namespace LineTally

/-- The plain form of a total, and of what each worker found if that is to be shown. -/
def plainText (total : Nat) (counts : List Nat) (showWorkers : Bool) : String :=
  s!"{total}\n" ++
    if showWorkers then
      String.join (counts.mapIdx fun worker count => s!"worker {worker}: {count}\n")
    else ""

/-- If no worker failed, the plain form says only what was found. -/
theorem Tally.Gathers.plain_eq {workers : Nat} {events : List Scan.Event} {tally : Tally}
    (gathers : tally.Gathers workers events)
    (fine : ∀ worker ∈ tally.workers, worker.failed = false) (showWorkers : Bool) :
    tally.plain showWorkers =
      plainText tally.total.toNat (tally.workers.map (·.matched.toNat)) showWorkers := by
  have lines : tally.workers.map plainLine = (tally.workers.map (·.matched.toNat)).mapIdx
      fun worker count => s!"worker {worker}: {count}\n" := by
    apply List.ext_getElem?
    intro index
    rw [List.getElem?_map, List.getElem?_mapIdx, List.getElem?_map]
    cases there : tally.workers[index]? with
    | none => rfl
    | some worker =>
        have mine : worker.index.toNat = index := (gathers.entries index worker there).1
        have unmarked := fine worker (List.mem_of_getElem? there)
        subst mine
        simp [plainLine, failureMark, unmarked, toString]
  rw [plain, lines]
  rfl

namespace Command

/-! ## What is written -/

/-- What is written of a report to the output. -/
def Display.text (display : Display) (report : Report) : String :=
  match display.format with
  | .plain => report.plain display.showWorkers
  | .json => trimmedLines report.json
  | .pretty => trimmedLines (report.pretty display.showWorkers)

/-- While a scan goes on, nothing is written to the output unless the sink is called. -/
theorem Display.output_sinkCalls (display : Display) (events : List Scan.Event) :
    (display.events (Scan.sinkCalls events)).output = (display.events events).output := by
  induction events using List.reverseRecOn with
  | nil => rfl
  | append_singleton before event ih =>
      rw [Scan.sinkCalls_append, output_events_append, output_events_append, ih]
      congr 1
      cases event <;> rfl

/-- What the sink is told is all that is written while a scan goes on. -/
theorem Display.output_events (display : Display) {events : List Scan.Event} {workers : Nat}
    {source : List Entry} {summary : Summary}
    (aggregated : summary.Aggregated workers source events) :
    (display.events events).output =
      if display.format = .plain then summary.tally.plain display.showWorkers else "" := by
  rw [← output_sinkCalls, aggregated.handed]
  by_cases plain : display.format = .plain <;> cases summary.sourceError <;>
    simp [Display.events, event, plain]

/-- What is written when the scan is over, and the code. -/
theorem Display.finish_of_summary (display : Display) (clock : Clock) {last : Scan.State}
    {summary : Summary} (returned : last.summary? = some summary) {consumed : Count}
    (added : summary.tally.consumed = .ok consumed) :
    (display.finish clock last).console.output =
        (if display.format = .plain then "" else display.text (clock.report summary)) ∧
      (display.finish clock last).code = reportCode (clock.report summary) := by
  have shown : display.finish clock last = display.report (clock.report summary) := by
    rw [finish, Scan.coordinator_of_summary returned]
    rfl
  rw [shown, report]
  cases format : display.format with
  | plain =>
      dsimp only
      split
      · rw [show (clock.report summary).tally.consumed = .ok consumed from added]
        exact ⟨rfl, rfl⟩
      · exact ⟨rfl, rfl⟩
  | json | pretty => simp [text, format]

/-- In all, the report is written. -/
theorem Display.output_over (display : Display) (clock : Clock) {events : List Scan.Event}
    {workers : Nat} {source : List Entry} {last : Scan.State} {summary : Summary}
    (aggregated : summary.Aggregated workers source events)
    (returned : last.summary? = some summary) {consumed : Count}
    (added : summary.tally.consumed = .ok consumed) :
    (display.events events).output ++ (display.finish clock last).console.output =
      display.text (clock.report summary) := by
  rw [display.output_events aggregated, (display.finish_of_summary clock returned added).1]
  split
  next plain =>
    rw [String.append_empty, text, plain]
    rfl
  next => exact String.empty_append

section Report

variable {report : Report}

theorem reportCode_eq_zero_iff :
    reportCode report = 0 ↔ report.sourceError = none ∧ report.cancelled = false := by
  unfold reportCode
  cases report.sourceError <;> cases report.cancelled <;>
    simp [sourceFailureCode, interruptionCode]

theorem reportCode_eq_sourceFailureCode_iff :
    reportCode report = sourceFailureCode ↔ report.sourceError.isSome = true := by
  unfold reportCode
  cases report.sourceError <;> cases report.cancelled <;>
    simp [sourceFailureCode, interruptionCode]

end Report

/-! ## What the answer says -/

/-- The ending tells a total, in the report and in what is written to the output. -/
structure Ending.Tells (task : Task) (total : Nat) (ending : Ending) : Prop where
  report : ∃ report, ending.report = some report ∧ report.tally.total.toNat = total ∧
    ending.output = task.display.text report
  plain : task.display.format = .plain → ∃ counts : List Nat,
    counts.length = task.plan.workers ∧ counts.sum = total ∧
      ending.output = plainText total counts task.display.showWorkers

section Ends

variable {task : Task} {bytes : List UInt8} {failure : Option IoError} {interruptions : Nat}
variable {ending : Ending}

/-- What is written of a report tells its total; in the plain form it tells what each worker found as
well. -/
theorem Ending.Tells.of_output {summary : Summary} {clock : Clock} {events : List Scan.Event}
    (said : ending.report = some (clock.report summary))
    (written : ending.output = task.display.text (clock.report summary))
    (gathers : summary.tally.Gathers task.plan.workers events)
    (fine : ∀ worker ∈ summary.tally.workers, worker.failed = false) :
    ending.Tells task summary.tally.total.toNat := by
  refine ⟨⟨_, said, rfl, written⟩, fun plain => ?_⟩
  refine ⟨summary.tally.workers.map (·.matched.toNat), ?_, gathers.total.symm, ?_⟩
  · rw [List.length_map, gathers.number]
  · rw [written, Display.text, plain, ← gathers.plain_eq fine]
    rfl

/-- If the command was not ended by a second interruption, it tells what the scan came to. -/
theorem Task.Ends.tells (valid : task.plan.check = .ok ())
    (brings : task.input.Brings bytes failure) (ends : task.Ends interruptions ending) :
    (∃ (summary : Summary) (clock : Clock), ending.report = some (clock.report summary) ∧
      ending.code = reportCode (clock.report summary) ∧
      ending.Tells task summary.tally.total.toNat ∧
      summary.Faithful task.plan.search.holds (Lines.deliveredLines bytes failure)
        (failure.map (·.message)) (Scan.asks ending.events) ∧
      (interruptions = 0 → summary.cancelled = false)) ∨
    1 < interruptions ∧ ending.report = none ∧ ending.code = interruptionCode := by
  cases ends with
  | abandoned again run before => exact Or.inr ⟨again, rfl, rfl⟩
  | @completed events last clock run atEnd before written =>
      left
      rw [Task.start_eq, Scan.Feed.ofSplitter_of_brings brings] at run
      have positive := capacity_pos valid
      have some := workers_pos valid
      have alone : task.around.Within fun _ => False :=
        fun _ _ asked => absurd asked List.not_mem_nil
      have answers (line : String) : task.around.predicate.Answers line := ⟨_, rfl⟩
      have sound := Scan.sound_of_run task.shutsDown positive run
      rcases Scan.exists_summary_of_isOver sound atEnd with ⟨summary, returned⟩
      have aggregated := (Scan.told_of_run task.shutsDown positive run).aggregated sound some
        returned
      rcases Scan.tally_of_answers sound answers returned with ⟨⟨consumed, added, -⟩, -, fine⟩
      rcases Scan.faithful_of_run alone answers positive some run returned with ⟨faithful, calm⟩
      have said : last.summary?.map clock.report = Option.some (clock.report summary) := by
        rw [returned]
        rfl
      have output := task.display.output_over clock aggregated returned added
      rw [← written] at output
      rw [← Task.plan_workers] at aggregated
      refine ⟨summary, clock, said, ?_, .of_output said output aggregated.gathers fine, faithful, ?_⟩
      · exact (task.display.finish_of_summary clock returned added).2
      · rintro rfl
        exact calm rfl

/-- The code of the ending says how far its total goes.  `lines` are those that the stream brings,
`failing` says whether it then fails, and `matches?` is the test of lines. -/
structure Ending.Trustworthy (task : Task) (matches? : String → Bool) (lines : List String)
    (failing : Bool) (interruptions : Nat) (ending : Ending) : Prop where
  /-- Only a second interruption keeps the command from telling what it found. -/
  reported : ending.report = none → 1 < interruptions ∧ ending.code = interruptionCode
  /-- All is well: all lines were looked at. -/
  whole : ending.code = 0 → failing = false ∧ ending.Tells task (lines.countP matches?)
  /-- Whatever the code, what is told is what the first lines hold. -/
  first : ending.report.isSome → ∃ seen, seen <+: lines ∧ ending.Tells task (seen.countP matches?)
  /-- Nothing goes wrong by itself. -/
  alone : interruptions = 0 → failing = false → lines.length < Count.limit → ending.code = 0
  /-- A failure that the reader came to is not passed over. -/
  failed : failing = true → lines.length < Scan.asks ending.events → ending.report.isSome →
    ending.code = sourceFailureCode
  /-- Without interruptions the reader comes to the failure, and all lines before it were looked
  at. -/
  failed_alone : interruptions = 0 → failing = true → ending.code = sourceFailureCode ∧
    (lines.length < Count.limit → ending.Tells task (lines.countP matches?))
  /-- More lines than can be counted are a failure as well. -/
  overlong : interruptions = 0 → Count.limit ≤ lines.length → ending.code = sourceFailureCode

/-- What a summary tells is trustworthy if it is faithful. -/
theorem Ending.Trustworthy.of_faithful {matches? : String → Bool} {lines : List String}
    {summary : Summary} {clock : Clock} (said : ending.report = some (clock.report summary))
    (code : ending.code = reportCode (clock.report summary))
    (tells : ending.Tells task summary.tally.total.toNat)
    (faithful : summary.Faithful matches? lines (failure.map (·.message))
      (Scan.asks ending.events))
    (calm : interruptions = 0 → summary.cancelled = false)
    (empty : ∀ seen, (nonEmpty seen).countP matches? = seen.countP matches?) :
    ending.Trustworthy task matches? lines failure.isSome interruptions := by
  have lost (whole : summary.cancelled = false) (many : Count.limit ≤ lines.length) :
      summary.sourceError.isSome = true := by
    rw [((faithful.whole whole).2 many).sourceError]
    rfl
  have error (whole : summary.cancelled = false) (few : lines.length < Count.limit) :
      summary.sourceError = failure.map (·.message) :=
    ((faithful.whole whole).1 few).sourceError
  have all (whole : summary.cancelled = false) (few : lines.length < Count.limit) :
      ending.Tells task (lines.countP matches?) := by
    rw [← empty, ← ((faithful.whole whole).1 few).total]
    exact tells
  have failed : ending.code = sourceFailureCode ↔ summary.sourceError.isSome = true := by
    rw [code]
    exact reportCode_eq_sourceFailureCode_iff
  constructor
  case reported =>
    intro silent
    rw [said] at silent
    cases silent
  case whole =>
    intro fine
    rcases reportCode_eq_zero_iff.mp (code ▸ fine) with ⟨sound, whole⟩
    by_cases few : lines.length < Count.limit
    · have none := (error whole few).symm.trans sound
      exact ⟨by simpa using none, all whole few⟩
    · have error := lost whole (Nat.le_of_not_lt few)
      rw [show summary.sourceError = none from sound] at error
      cases error
  case first =>
    intro _
    rcases faithful.counted with ⟨seen, begins, total⟩
    rw [empty] at total
    exact ⟨seen, begins, total ▸ tells⟩
  case alone =>
    intro none sound few
    rw [code, reportCode_eq_zero_iff]
    refine ⟨(error (calm none) few).trans ?_, calm none⟩
    simpa using sound
  case failed =>
    intro fails asked _
    exact failed.mpr (faithful.failed (by simpa using fails) asked)
  case failed_alone =>
    intro none fails
    refine ⟨failed.mpr ?_, all (calm none)⟩
    by_cases few : lines.length < Count.limit
    · rw [error (calm none) few]
      simpa using fails
    · exact lost (calm none) (Nat.le_of_not_lt few)
  case overlong =>
    intro none many
    exact failed.mpr (lost (calm none) many)

/-- Every ending of a task can be trusted about the lines that its stream brings. -/
theorem Task.Ends.trustworthy (valid : task.plan.check = .ok ())
    (brings : task.input.Brings bytes failure) (ends : task.Ends interruptions ending) :
    ending.Trustworthy task task.plan.search.holds (Lines.deliveredLines bytes failure)
      failure.isSome interruptions := by
  rcases ends.tells valid brings with
    ⟨summary, clock, said, code, tells, faithful, calm⟩ | ⟨again, silent, code⟩
  · exact .of_faithful said code tells faithful calm
      (Search.countP_nonEmpty (term_ne_empty valid) task.plan.ignoreCase)
  · have interrupted : interruptions ≠ 0 := by omega
    have failed : ending.code ≠ 0 := by
      rw [code]
      decide
    constructor
    case reported => exact fun _ => ⟨again, code⟩
    case whole => exact fun fine => absurd fine failed
    case first | failed => simp [silent]
    case alone | failed_alone | overlong => exact fun none => absurd none interrupted

end Ends

/-- The answer of the command can be trusted: whatever the input, the settings and the options,
whatever the order in which the threads of its scan take their steps, and wherever interruptions
fall.  The scan ends, and the code with which the command ends says how far its total goes; and what
the command comes to on a machine when it is called with some arguments is such an ending. -/
theorem answer_can_be_trusted :
    (∀ (task : Task) (bytes : List UInt8) (failure : Option IoError) (interruptions : Nat),
      task.plan.check = .ok () → task.input.Brings bytes failure →
      (∀ line, task.plan.search.holds line = true ↔
        Search.Occurs task.term (task.settings.ignoreCase || task.options.ignoreCase) line) ∧
      (∀ (number : Nat) (last : Scan.State),
        (Scan.system task.around).Steps (task.start interruptions) number last →
        number ≤ (task.start interruptions).budget task.around) ∧
      (∀ (events : List Scan.Event) (state : Scan.State),
        (Scan.system task.around).Run (task.start interruptions) events state →
        state.coordinator.isOver = true ∨
          ∃ thread pick next, (Scan.system task.around).step thread pick state = some next) ∧
      ∀ ending, task.Ends interruptions ending →
        ending.Trustworthy task task.plan.search.holds (Lines.deliveredLines bytes failure)
          failure.isSome interruptions) ∧
    ∀ (host : Host) (arguments : List String) (task : Task) (interruptions : Nat),
      host.task? arguments = some (task, interruptions) →
      (∃ file log, request host.environment arguments = .ok ⟨task.options, .scan task.term file⟩ ∧
        host.settings task.options = .ok (task.settings, log) ∧
        task.input.Brings (host.contents file).1 (host.contents file).2) ∧
      task.plan.check = .ok () ∧
      ∃ events report, task.Ends interruptions (.ofOutcome events report (host.run arguments)) := by
  refine ⟨?_, fun host arguments task interruptions asked => Host.ends_of_task? asked⟩
  intro task bytes failure interruptions valid brings
  have positive := Task.capacity_pos valid
  have workers := Task.workers_pos valid
  refine ⟨?_, ?_, ?_, ?_⟩
  · exact fun line => Search.holds_ofTerm_iff ..
  · intro number last steps
    rw [Task.start_eq] at steps ⊢
    exact Scan.length_le_budget task.shutsDown positive steps
  · intro events state run
    rw [Task.start_eq] at run
    rcases Scan.over_or_step_of_run task.shutsDown positive workers run with
      atEnd | ⟨thread, pick, next, seen, moves⟩
    · exact Or.inl (atEnd.hasFinished .coordinator)
    · exact Or.inr ⟨thread, pick, _, moves⟩
  · exact fun ending ends => ends.trustworthy valid brings

/-- Two workers, room for one line, and a stream that fails in its fourth line: the two lines before
it that hold the term in capitals or not are told, and the code says that there was a failure.  The
same lines, with an interruption in the middle, are a task for the command when it is called with
the same options. -/
theorem answer_can_be_trusted_of_failing_stream :
    let bytes : List UInt8 := [0x61, 0x62, 0x0D, 0x0A, 0x0A, 0x78, 0x41, 0x42, 0x0A, 0x61]
    let broken : IoError := { message := "broken pipe" }
    let reads : List Lines.Read := [
      .data [0x61, 0x62, 0x0D], .failure { interrupted := true, message := "interrupted" },
      .data [0x0A, 0x0A, 0x78, 0x41, 0x42, 0x0A, 0x61], .failure broken, .data [0x62, 0x0A]]
    let task : Task := {
      settings := .defaults ⟨2, by decide⟩
      options := { capacity := some 1, ignoreCase := true }
      term := "ab"
      input := .ofReads reads Lines.Splitter.defaultSize }
    let host : Host := {
      environment := fun _ => none
      files := fun _ => none
      input := { bytes := bytes.take 5, interruptions := 1, later := bytes.drop 5 }
      workers := ⟨2, by decide⟩
      clock := ⟨0, .ofSeconds 0 0⟩ }
    let arguments := ["scan", "-i", "-c", "1", "ab"]
    let called : Task := { task with input := .ofBytes bytes }
    task.plan.check = .ok () ∧ task.input.Brings bytes (some broken) ∧
      (∃ ending, task.Ends 0 ending ∧ ending.code = sourceFailureCode ∧ ending.Tells task 2) ∧
      host.task? arguments = some (called, 1) ∧
      ∃ events report, called.Ends 1 (.ofOutcome events report (host.run arguments)) := by
  intro bytes broken reads task host arguments called
  have valid : task.plan.check = .ok () := by decide +kernel
  have chunks : Lines.Chunks bytes (reads.take 3) :=
    .chunk [0x61, 0x62, 0x0D] (by decide) <| .again rfl <|
      .chunk [0x0A, 0x0A, 0x78, 0x41, 0x42, 0x0A, 0x61] (by decide) .done
  have brings : task.input.Brings bytes (some broken) :=
    .reads (.broken rfl chunks [.data [0x62, 0x0A]]) (by decide)
  have asked : host.task? arguments = some (called, 1) := by decide +kernel
  rcases Task.ends_of_run valid ⟨0, .ofSeconds 0 0⟩ with ⟨events, report, ends⟩
  have trusted :=
    (answer_can_be_trusted.1 task bytes (some broken) 0 valid brings).2.2.2 _ ends
  have found : (Lines.deliveredLines bytes (some broken)).countP task.plan.search.holds = 2 := by
    decide +kernel
  have few : (Lines.deliveredLines bytes (some broken)).length < Count.limit := by
    decide +kernel
  rcases trusted.failed_alone rfl rfl with ⟨code, tells⟩
  exact ⟨valid, brings, ⟨_, ends, code, found ▸ tells few⟩, asked,
    (answer_can_be_trusted.2 host arguments called 1 asked).2.2⟩

end Command

end LineTally
