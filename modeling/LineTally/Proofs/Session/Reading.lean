import LineTally.Proofs.Session.History

/-!
# What a reader has done when it returns

A reader hears the entries of its source one by one.  Each line that is not empty it pushes, and
goes on only if the push has placed it.  So what it has done by the time it stops is a routine for
each entry up to some point, and behind it at most one thing more, after which it does nothing:
its source has ended, failed or given up, or a push was refused.  From this its counts are read off,
and they are those that it reports.
-/

namespace LineTally

open Queue LineTally.System

/-! ## Sources that go on -/

/-- Behind this entry a source does the next one. -/
def Entry.goesOn : Entry → Bool
  | .line _ | .act _ => true
  | .failure _ | .fault _ => false

/-- A source that goes on yields its lines one after the other. -/
theorem yielded_append {earlier : List Entry} (on : ∀ entry ∈ earlier, entry.goesOn = true)
    (rest : List Entry) : yielded (earlier ++ rest) = yielded earlier ++ yielded rest := by
  induction earlier with
  | nil => rfl
  | cons entry earlier ih =>
      have later := ih fun entry member => on entry (List.mem_cons_of_mem _ member)
      have goes := on entry List.mem_cons_self
      cases entry with
      | line text => simp [yielded, later]
      | act action => simpa [yielded] using later
      | failure message | fault message => cases goes

/-- A source that goes on ends as it does behind that. -/
theorem closeOf_append {earlier : List Entry} (on : ∀ entry ∈ earlier, entry.goesOn = true)
    (rest : List Entry) : closeOf (earlier ++ rest) = closeOf rest := by
  induction earlier with
  | nil => rfl
  | cons entry earlier ih =>
      have later := ih fun entry member => on entry (List.mem_cons_of_mem _ member)
      have goes := on entry List.mem_cons_self
      cases entry with
      | line text | act action => exact later
      | failure message | fault message => cases goes

namespace Session

/-! ## What a reader gets to know -/

/-- What a reader gets to know of an entry behind which it goes on. -/
def routine : Entry → List Doing
  | .line text =>
      if text.isEmpty then [.asked (some (.line text))]
      else [.asked (some (.line text)), .pushed .placed]
  | entry => [.asked (some entry)]

/-- The line that the source gave, if it gave one. -/
def Doing.line? : Doing → Option String
  | .asked (some (.line text)) => some text
  | _ => none

/-- A reader does nothing behind it: the source has ended, failed or given up, or a push was
refused. -/
def Doing.isLast : Doing → Bool
  | .asked none | .asked (some (.failure _)) | .asked (some (.fault _)) | .pushed (.refused _) =>
      true
  | _ => false

/-- A reader with this behind it has got past the first entries of its source. -/
structure Passed (source earlier rest : List Entry) (doings : List Doing) : Prop where
  source : source = earlier ++ rest
  on : ∀ entry ∈ earlier, entry.goesOn = true
  doings : doings = earlier.flatMap routine

namespace Passed

variable {source earlier rest : List Entry} {doings : List Doing}

theorem start (source : List Entry) : Passed source [] source [] :=
  ⟨rfl, by simp, rfl⟩

theorem next {entry : Entry} (passed : Passed source earlier (entry :: rest) doings)
    (goes : entry.goesOn = true) :
    Passed source (earlier ++ [entry]) rest (doings ++ routine entry) where
  source := passed.source.trans (List.append_cons ..)
  on := by
    intro other member
    rcases List.mem_append.mp member with before | last
    · exact passed.on other before
    · exact List.mem_singleton.mp last ▸ goes
  doings := by simp [passed.doings]

theorem yielded_eq (passed : Passed source earlier rest doings) :
    yielded source = yielded earlier ++ yielded rest :=
  passed.source ▸ yielded_append passed.on rest

/-- A source that does not go on behind an entry has yielded all its lines before it. -/
theorem of_stop {entry : Entry} (passed : Passed source earlier (entry :: rest) doings)
    (stops : entry.goesOn = false) :
    yielded source = yielded earlier ∧ closeOf source = closeOf [entry] := by
  rw [passed.yielded_eq, passed.source, closeOf_append passed.on]
  cases entry with
  | line text | act action => cases stops
  | failure message | fault message => exact ⟨List.append_nil _, rfl⟩

theorem lines (passed : Passed source earlier rest doings) :
    doings.filterMap Doing.line? = yielded earlier := by
  rcases passed with ⟨-, on, rfl⟩
  induction earlier with
  | nil => rfl
  | cons entry earlier ih =>
      have later := ih fun entry member => on entry (List.mem_cons_of_mem _ member)
      have goes := on entry List.mem_cons_self
      cases entry with
      | line text =>
          cases empty : text.isEmpty <;>
            simp [routine, Doing.line?, yielded, empty, later, List.filterMap_cons]
      | act action => simpa [routine, Doing.line?, yielded, List.filterMap_cons] using later
      | failure message | fault message => cases goes

theorem isLast_eq_false (passed : Passed source earlier rest doings) :
    ∀ doing ∈ doings, doing.isLast = false := by
  rcases passed with ⟨-, on, rfl⟩
  intro doing member
  rcases List.mem_flatMap.mp member with ⟨entry, among, routinely⟩
  have goes := on entry among
  cases entry with
  | line text =>
      simp only [routine] at routinely
      split at routinely
      · simp only [List.mem_singleton] at routinely
        subst routinely
        rfl
      · simp only [List.mem_cons, List.not_mem_nil, or_false] at routinely
        rcases routinely with rfl | rfl <;> rfl
  | act action =>
      simp only [routine, List.mem_singleton] at routinely
      subst routinely
      rfl
  | failure message | fault message => cases goes

theorem isLast_eq_false_of_line {text : String}
    (passed : Passed source earlier (.line text :: rest) doings) :
    ∀ doing ∈ doings ++ [.asked (some (.line text))], doing.isLast = false := by
  intro doing member
  rcases List.mem_append.mp member with before | last
  · exact passed.isLast_eq_false doing before
  · exact List.mem_singleton.mp last ▸ rfl

end Passed

/-! ## How a reader ends -/

/-- What a reader has done while it went on, the last that it did if it was stopped by that, what
it has put, and what it says. -/
inductive Ends (flagged : Prop) (source : List Entry) :
    List Doing → Option Doing → List String → Except Fault Reading → Prop where
  /-- It saw the flag before it asked for a line. -/
  | flagged {earlier rest : List Entry} {going : List Doing} {reading : Reading}
      (flag : flagged) (passed : Passed source earlier rest going)
      (of : reading.Of (yielded earlier) (nonEmpty (yielded earlier))) :
      Ends flagged source going none (nonEmpty (yielded earlier))
        (.ok { reading with cancelled := true })
  | exhausted {going : List Doing} {reading : Reading} (passed : Passed source source [] going)
      (of : reading.Of (yielded source) (nonEmpty (yielded source))) :
      Ends flagged source going (some (.asked none)) (nonEmpty (yielded source)) (.ok reading)
  | failed {earlier rest : List Entry} {going : List Doing} {reading : Reading}
      {message : String} (passed : Passed source earlier (.failure message :: rest) going)
      (of : reading.Of (yielded earlier) (nonEmpty (yielded earlier))) :
      Ends flagged source going (some (.asked (some (.failure message))))
        (nonEmpty (yielded earlier)) (.ok { reading with error := some message })
  | gaveUp {earlier rest : List Entry} {going : List Doing} {message : String}
      (passed : Passed source earlier (.fault message :: rest) going) :
      Ends flagged source going (some (.asked (some (.fault message))))
        (nonEmpty (yielded earlier)) (.error (.raised message))
  /-- The last line that it read was not placed. -/
  | refused {earlier rest : List Entry} {going : List Doing} {reading : Reading}
      {text : String} {reason : Refusal} (flag : reason = .cancelled → flagged)
      (passed : Passed source earlier (.line text :: rest) going)
      (filled : text.isEmpty = false)
      (of : reading.Of (yielded earlier ++ [text]) (nonEmpty (yielded earlier))) :
      Ends flagged source (going ++ [.asked (some (.line text))])
        (some (.pushed (.refused reason))) (nonEmpty (yielded earlier))
        (.ok { reading with cancelled := decide (reason = .cancelled) })
  /-- There are more lines than can be counted. -/
  | overflowed {going : List Doing} {puts : List String}
      (on : ∀ doing ∈ going, doing.isLast = false)
      (many : Count.limit ≤ (yielded source).length) :
      Ends flagged source going none puts (.error .overflow)

theorem Ends.mono {flagged flagged' : Prop} {source : List Entry} {going : List Doing}
    {final : Option Doing} {puts : List String} {result : Except Fault Reading}
    (ends : Ends flagged source going final puts result) (set : flagged → flagged') :
    Ends flagged' source going final puts result := by
  cases ends with
  | flagged flag passed of => exact .flagged (set flag) passed of
  | exhausted passed of => exact .exhausted passed of
  | failed passed of => exact .failed passed of
  | gaveUp passed => exact .gaveUp passed
  | refused flag passed filled of => exact .refused (set ∘ flag) passed filled of
  | overflowed on many => exact .overflowed on many

/-- A reader with this behind it has come to that result. -/
def Ended (flagged : Prop) (source : List Entry) (doings : List Doing) (puts : List String)
    (result : Except Fault Reading) : Prop :=
  ∃ going final, doings = going ++ final.toList ∧ Ends flagged source going final puts result

theorem Ended.mono {flagged flagged' : Prop} {source : List Entry} {doings : List Doing}
    {puts : List String} {result : Except Fault Reading}
    (ended : Ended flagged source doings puts result) (set : flagged → flagged') :
    Ended flagged' source doings puts result := by
  rcases ended with ⟨going, final, same, ends⟩
  exact ⟨going, final, same, ends.mono set⟩

end Session

namespace Reader

open Session

variable {ι : Type} [DecidableEq ι]
variable {flagged marked closed : Prop} {source earlier rest : List Entry} {doings : List Doing}
variable {puts : List String} {reading : Reading}

/-- Where a reader is that has done this and has put these lines. -/
def Follows (flagged marked : Prop) (source : List Entry) (doings : List Doing)
    (puts : List String) : Reader → Prop
  | .checking rest _ | .asking rest _ | .acting rest _ _ =>
      ∃ earlier, Passed source earlier rest doings
  | .pushing rest _ _ =>
      ∃ earlier text before, Passed source earlier (.line text :: rest) before ∧
        text.isEmpty = false ∧ doings = before ++ [.asked (some (.line text))]
  | .ending result _ => Ended flagged source doings puts result
  | .finished result => Ended flagged source doings puts result ∧ marked

theorem follows_start (flagged marked : Prop) (source : List Entry) (puts : List String) :
    (start source).Follows flagged marked source [] puts :=
  ⟨[], .start source⟩

theorem Follows.mono {flagged' marked' : Prop} {reader : Reader}
    (follows : reader.Follows flagged marked source doings puts) (set : flagged → flagged')
    (mark : marked → marked') : reader.Follows flagged' marked' source doings puts := by
  cases reader with
  | ending result call => exact Ended.mono follows set
  | finished result => exact ⟨follows.1.mono set, mark follows.2⟩
  | checking | asking | acting | pushing => exact follows

/-- A reader between two entries has counted those that it has got past. -/
theorem Account.of_passed
    (account : (Reader.checking rest reading).Account flagged closed source puts)
    (passed : Passed source earlier rest doings) :
    reading.Of (yielded earlier) (nonEmpty (yielded earlier)) ∧
      puts = nonEmpty (yielded earlier) := by
  rcases account with ⟨read, lines, -, of, same⟩
  have together : read = yielded earlier :=
    List.append_cancel_right (lines.symm.trans passed.yielded_eq)
  exact together ▸ ⟨of, same⟩

/-- A reader in a push has counted those that it has got past, and the line in its hands. -/
theorem Account.of_passed_pushing {text : String} {push : Push String}
    (account : (Reader.pushing rest reading push).Account flagged closed source puts)
    (passed : Passed source earlier (.line text :: rest) doings) :
    reading.Of (yielded earlier ++ [text]) (nonEmpty (yielded earlier)) ∧
      puts = nonEmpty (yielded earlier) ++ push.placed text := by
  rcases account with ⟨read, other, lines, -, -, of, -, same⟩
  have together := lines.symm.trans passed.yielded_eq
  rw [yielded, List.append_cons, List.append_cons (yielded earlier)] at together
  rcases List.append_inj' (List.append_cancel_right together) rfl with ⟨rfl, alike⟩
  cases alike
  exact ⟨of, same⟩

/-- A reader faults by itself only if there are more lines than can be counted. -/
theorem Stopped.many (stopped : Stopped flagged closed source puts (.error .overflow)) :
    Count.limit ≤ (yielded source).length := by
  cases stopped with
  | overflowed lines full =>
      rw [lines, List.length_append, List.length_cons]
      omega

/-- What a reader does about a line from its source. -/
theorem follows_receive {text : String}
    (passed : Passed source earlier (.line text :: rest) doings)
    (account : (receive rest reading text).Account flagged closed source puts) :
    (receive rest reading text).Follows flagged marked source
      (doings ++ [.asked (some (.line text))]) puts := by
  have going := passed.isLast_eq_false_of_line
  unfold receive at account ⊢
  split at account
  next overflow =>
    cases Count.eq_overflow_of_succ overflow
    exact ⟨_, none, (List.append_nil _).symm, .overflowed going account.many⟩
  next =>
    dsimp only at account ⊢
    split at account
    next empty =>
      rw [if_pos empty]
      split at account
      next overflow =>
        cases Count.eq_overflow_of_succ overflow
        exact ⟨_, none, (List.append_nil _).symm, .overflowed going account.many⟩
      next =>
        exact ⟨earlier ++ [.line text], by simpa [routine, empty] using passed.next rfl⟩
    next filled =>
      rw [if_neg filled]
      exact ⟨earlier, text, doings, passed, by simpa using filled, rfl⟩

/-- What a reader does when its push has returned. -/
theorem follows_afterPush {text : String} {result : PushResult}
    (passed : Passed source earlier (.line text :: rest) doings) (filled : text.isEmpty = false)
    (of : reading.Of (yielded earlier ++ [text]) (nonEmpty (yielded earlier)))
    (put : puts = nonEmpty (yielded earlier) ++ result.items text)
    (flag : result = .refused .cancelled → flagged) (sound : ∀ fault, result ≠ .faulted fault)
    (account : (afterPush rest reading result).1.Account flagged closed source puts) :
    (afterPush rest reading result).1.Follows flagged marked source
      (doings ++ [.asked (some (.line text))] ++ [.pushed result]) puts := by
  cases result with
  | placed =>
      have onwards : Passed source (earlier ++ [.line text]) rest
          (doings ++ [.asked (some (.line text))] ++ [.pushed .placed]) := by
        simpa [routine, filled] using passed.next rfl
      simp only [afterPush] at account ⊢
      split
      next => exact ⟨_, onwards⟩
      next overflow =>
        rw [overflow] at account
        cases Count.eq_overflow_of_succ overflow
        exact ⟨_, none, (List.append_nil _).symm,
          .overflowed onwards.isLast_eq_false account.many⟩
  | refused reason =>
      simp only [PushResult.items, List.append_nil] at put
      subst put
      have raised : reason = .cancelled → flagged := by
        rintro rfl
        exact flag rfl
      have ended : Ended flagged source _ _ _ :=
        ⟨_, some _, rfl, .refused raised passed filled of⟩
      cases reason with
      | cancelled => exact ended
      | closed =>
          rcases reading with ⟨linesRead, produced, skipped, cancelled, error⟩
          cases of.going
          exact ended
  | faulted fault => exact absurd rfl (sound fault)

/-- A step adds to what a reader has done what it gets to know.  The account before it tells what has
been counted by then, and the account after it why there is no count for more. -/
theorem Follows.step {queue : Queue Nat String} {me pick : Nat} {reader : Reader}
    {step : Step Nat} (follows : reader.Follows flagged marked source doings puts)
    (account : reader.Account flagged closed source puts)
    (stepped : reader.step queue me pick = some step) (ground : reader.call.Grounded queue)
    (flag : queue.cancelled = true → flagged) (mark : step.queue.ended = true → marked)
    (later : step.reader.Account flagged closed source (puts ++ entered step.transfer)) :
    step.reader.Follows flagged marked source (doings ++ (Client.reading reader).doing?.toList)
      (puts ++ entered step.transfer) := by
  cases reader with
  | checking rest reading =>
      rcases follows with ⟨earlier, passed⟩
      rcases account.of_passed passed with ⟨of, rfl⟩
      simp only [Reader.step] at stepped
      split at stepped
      next raised =>
        cases stepped
        simp only [entered, List.append_nil]
        exact ⟨doings, none, rfl, .flagged (flag raised) passed of⟩
      next =>
        cases stepped
        exact ⟨earlier, by simpa [Client.doing?] using passed⟩
  | asking rest reading =>
      rcases follows with ⟨earlier, passed⟩
      change (Reader.checking rest reading).Account flagged closed source puts at account
      rcases account.of_passed passed with ⟨of, rfl⟩
      cases stepped
      cases rest with
      | nil =>
          have whole : source = earlier := passed.source.trans (List.append_nil _)
          subst whole
          simp only [ask, entered, List.append_nil]
          exact ⟨doings, some _, rfl, .exhausted passed of⟩
      | cons entry rest =>
          cases entry with
          | line text =>
              simp only [ask, entered, List.append_nil] at later ⊢
              exact follows_receive passed later
          | failure message =>
              simp only [ask, entered, List.append_nil]
              exact ⟨doings, some _, rfl, .failed passed of⟩
          | fault message =>
              simp only [ask, entered, List.append_nil]
              exact ⟨doings, some _, rfl, .gaveUp passed⟩
          | act action => exact ⟨_, passed.next rfl⟩
  | acting rest reading inside =>
      rcases Option.map_eq_some_iff.mp stepped with ⟨acted, moved, rfl⟩
      have silent : doings ++ (Client.reading (.acting rest reading inside)).doing?.toList =
        doings := List.append_nil _
      rw [silent]
      cases progress : acted.progress <;> exact follows
  | pushing rest reading push =>
      rcases follows with ⟨earlier, text, before, passed, filled, rfl⟩
      rcases account.of_passed_pushing passed with ⟨of, rfl⟩
      rcases Option.map_eq_some_iff.mp stepped with ⟨move, moved, rfl⟩
      cases progress : move.progress with
      | «at» next =>
          have silent := Push.result?_eq_none moved progress
          exact ⟨earlier, text, before, passed, filled, by simp [Client.doing?, silent]⟩
      | returned result =>
          cases Push.eq_of_returned moved progress
          cases moved
          simp only [entered, List.append_nil] at later ⊢
          apply follows_afterPush passed filled of rfl ?_ ?_ later
          · rintro rfl
            exact flag ground
          · rintro fault rfl
            exact ground
  | ending result call =>
      rcases Option.map_eq_some_iff.mp stepped with ⟨move, moved, rfl⟩
      have silent : doings ++ (Client.reading (.ending result call)).doing?.toList = doings :=
        List.append_nil _
      rw [silent]
      cases progress : move.progress with
      | «at» next => simpa [entered, Follows] using follows
      | returned first =>
          rcases EndStream.eq_of_returned moved progress with ⟨rfl, left⟩
          have ended : queue.ended = true := ground
          have done : marked := mark (by simpa [progress, left, unlock] using ended)
          simpa [entered, Follows, done] using follows
  | finished result => cases stepped

end Reader

namespace Session

/-! ## What a reader reports -/

/-- The lines that a thread heard from its source. -/
def History.lines (history : History) : List String :=
  history.doings.filterMap Doing.line?

/-- The last that a thread did was to read a line whose push was refused. -/
def History.LosesLast (history : History) : Prop :=
  ∃ before text reason,
    history.doings = before ++ [.asked (some (.line text)), .pushed (.refused reason)]

/-- The counts of a reader are those of what it heard and put: the first lines of its source, and
the first of them that are not empty. -/
structure Counted (source : List Entry) (history : History) (reading : Reading) : Prop where
  lines : history.lines = (yielded source).take reading.linesRead.toNat
  linesRead : reading.linesRead.toNat = history.lines.length
  puts : history.puts = (nonEmpty (yielded source)).take reading.produced.toNat
  produced : reading.produced.toNat = history.puts.length
  skipped : reading.skippedEmpty.toNat =
    ((yielded source).take reading.linesRead.toNat).countP (·.isEmpty)

/-- What a reader says of itself is what it has done. -/
structure Tells (source : List Entry) (history : History) (flagged : Prop) (reading : Reading) :
    Prop where
  counted : Counted source history reading
  /-- It has put or skipped every line, but for the last one if that was refused. -/
  dropped : ∃ dropped ≤ 1,
    reading.linesRead.toNat = reading.produced.toNat + reading.skippedEmpty.toNat + dropped ∧
      (dropped = 1 ↔ history.LosesLast)
  error : ∀ message,
    reading.error = some message ↔ .asked (some (.failure message)) ∈ history.doings
  /-- A source that failed has yielded all its lines, and none of them was refused. -/
  failed : ∀ message, reading.error = some message →
    closeOf source = .failed message ∧ history.lines = yielded source ∧
      reading.linesRead.toNat = reading.produced.toNat + reading.skippedEmpty.toNat ∧
      reading.cancelled = false
  flag : reading.cancelled = true → flagged

/-- Nothing is done behind what is last. -/
def StopsAtLast (doings : List Doing) : Prop :=
  ∀ before doing after, doings = before ++ doing :: after → doing.isLast = true → after = []

section Going

variable {going : List Doing} {final : Option Doing}

theorem stopsAtLast_of_going (on : ∀ doing ∈ going, doing.isLast = false) :
    StopsAtLast (going ++ final.toList) := by
  intro before doing after same last
  -- What is last is not among those behind which it went on, so it is the final one.
  rcases List.append_eq_append_iff.mp same with ⟨among, -, behind⟩ | ⟨among, early, behind⟩
  · cases final with
    | none => simp at behind
    | some other =>
        rw [Option.toList_some] at behind
        cases among with
        | nil => exact (List.cons.inj behind).2.symm
        | cons first among => simp at behind
  · cases among with
    | nil =>
        cases final with
        | none => simp at behind
        | some other => exact (List.cons.inj behind).2
    | cons first among =>
        cases (List.cons.inj behind).1
        have early : doing.isLast = false := on doing (by simp [early])
        rw [early] at last
        cases last

/-- What is last comes at the end only. -/
theorem mem_going_iff (on : ∀ doing ∈ going, doing.isLast = false) {doing : Doing}
    (last : doing.isLast = true) : doing ∈ going ++ final.toList ↔ final = some doing := by
  rw [List.mem_append, Option.mem_toList]
  refine ⟨fun member => ?_, Or.inr⟩
  rcases member with early | late
  · rw [on doing early] at last
    cases last
  · exact late

end Going

/-- Every line is empty or not. -/
theorem length_eq_nonEmpty_add (lines : List String) :
    lines.length = (nonEmpty lines).length + (lines.filter (·.isEmpty)).length := by
  rw [List.length_eq_length_filter_add (·.isEmpty), Nat.add_comm]
  rfl

/-- A reader that has got past some lines has put or skipped each of them. -/
theorem linesRead_eq_add {read : List String} {reading : Reading}
    (of : reading.Of read (nonEmpty read)) :
    reading.linesRead.toNat = reading.produced.toNat + reading.skippedEmpty.toNat := by
  rw [of.linesRead, of.produced, of.skipped]
  exact length_eq_nonEmpty_add read

/-- What a reader has heard that has got past the first entries of its source, and done more. -/
theorem Passed.history_lines {source earlier rest : List Entry} {going : List Doing}
    {history : History} (passed : Passed source earlier rest going) (more : List Doing)
    (done : history.doings = going ++ more) :
    history.lines = yielded earlier ++ more.filterMap Doing.line? := by
  rw [History.lines, done, List.filterMap_append, passed.lines]

/-- What a reader has read and put, as far as it is counted. -/
theorem Counted.of_lengths {source : List Entry} {history : History} {reading : Reading}
    {read rest : List String} (whole : yielded source = read ++ rest)
    (heard : history.lines = read) (begins : history.puts <+: nonEmpty (yielded source))
    (linesRead : reading.linesRead.toNat = read.length)
    (produced : reading.produced.toNat = history.puts.length)
    (skipped : reading.skippedEmpty.toNat = (read.filter (·.isEmpty)).length) :
    Counted source history reading := by
  have first : (yielded source).take reading.linesRead.toNat = read := by
    rw [linesRead, whole, List.take_left]
  refine ⟨heard.trans first.symm, heard ▸ linesRead, ?_, produced, ?_⟩
  · rw [produced]
    exact List.prefix_iff_eq_take.mp begins
  · rw [first, skipped, List.countP_eq_length_filter]

namespace Ends

variable {flagged : Prop} {source : List Entry} {going : List Doing} {final : Option Doing}
variable {puts : List String} {result : Except Fault Reading} {reading : Reading}
variable {history : History}

theorem isLast_eq_false (ends : Ends flagged source going final puts result) :
    ∀ doing ∈ going, doing.isLast = false := by
  cases ends with
  | flagged _ passed _ | exhausted passed _ | failed passed _ | gaveUp passed =>
      exact passed.isLast_eq_false
  | refused _ passed _ _ => exact passed.isLast_eq_false_of_line
  | overflowed on many => exact on

theorem error_eq_some_iff (ends : Ends flagged source going final puts (.ok reading))
    {message : String} :
    reading.error = some message ↔ final = some (.asked (some (.failure message))) := by
  cases ends with
  | flagged _ _ of | exhausted _ of | refused _ _ _ of => simp [of.sound]
  | failed => simp

theorem eq_raised_iff (ends : Ends flagged source going final puts result) {message : String} :
    result = .error (.raised message) ↔ final = some (.asked (some (.fault message))) := by
  cases ends <;> simp

/-- The last line that was read was refused if that is the last that was done. -/
theorem losesLast_iff (ends : Ends flagged source going final puts result)
    (done : history.doings = going ++ final.toList) :
    history.LosesLast ↔ ∃ reason, final = some (.pushed (.refused reason)) := by
  constructor
  · rintro ⟨before, text, reason, same⟩
    have member : Doing.pushed (.refused reason) ∈ going ++ final.toList := by
      rw [← done, same]
      simp
    exact ⟨reason, (mem_going_iff ends.isLast_eq_false rfl).mp member⟩
  · rintro ⟨reason, rfl⟩
    cases ends with
    | @refused _ _ before _ text => exact ⟨before, text, reason, by simp [done]⟩

/-- All lines but the refused one are put or skipped. -/
theorem exists_dropped (ends : Ends flagged source going final puts (.ok reading)) :
    ∃ dropped ≤ 1,
      reading.linesRead.toNat =
        reading.produced.toNat + reading.skippedEmpty.toNat + dropped ∧
      (dropped = 1 ↔ ∃ reason, final = some (.pushed (.refused reason))) := by
  cases ends with
  | flagged _ _ of | exhausted _ of | failed _ of =>
      have sum := linesRead_eq_add of
      exact ⟨0, by simp, sum, by simp⟩
  | @refused earlier _ _ counts text _ _ _ filled of =>
      refine ⟨1, le_rfl, ?_, by simp⟩
      have skipped : counts.skippedEmpty.toNat =
          ((yielded earlier).filter (·.isEmpty)).length := by
        simpa [filled] using of.skipped
      have split := length_eq_nonEmpty_add (yielded earlier)
      calc counts.linesRead.toNat
          = (yielded earlier).length + 1 := by simp [of.linesRead]
        _ = counts.produced.toNat + counts.skippedEmpty.toNat + 1 := by
          rw [split, of.produced, skipped]

theorem counted (ends : Ends flagged source going final history.puts (.ok reading))
    (done : history.doings = going ++ final.toList) : Counted source history reading := by
  have begins {earlier rest : List Entry} {going : List Doing}
      (passed : Passed source earlier rest going) :
      nonEmpty (yielded earlier) <+: nonEmpty (yielded source) := by
    rw [passed.yielded_eq, nonEmpty_append]
    exact List.prefix_append ..
  generalize put : history.puts = puts at ends
  cases ends with
  | flagged _ passed of | exhausted passed of | failed passed of =>
      have heard := passed.history_lines _ done
      simp only [Option.toList_none, Option.toList_some, List.filterMap_cons, Doing.line?,
        List.filterMap_nil, List.append_nil] at heard
      exact .of_lengths passed.yielded_eq heard (put ▸ begins passed) of.linesRead
        (put ▸ of.produced) of.skipped
  | @refused earlier rest _ _ text reason _ passed _ of =>
      have whole : yielded source = (yielded earlier ++ [text]) ++ yielded rest :=
        passed.yielded_eq.trans (List.append_cons ..)
      have heard := passed.history_lines _ (done.trans (List.append_assoc ..))
      exact .of_lengths whole heard (put ▸ begins passed) of.linesRead (put ▸ of.produced)
        of.skipped

/-- A source that failed has yielded all its lines, and they have all been put or skipped. -/
theorem of_failure {message : String}
    (ends : Ends flagged source going (some (.asked (some (.failure message)))) puts
      (.ok reading))
    (done : history.doings = going ++ [.asked (some (.failure message))]) :
    closeOf source = .failed message ∧ history.lines = yielded source ∧
      reading.linesRead.toNat = reading.produced.toNat + reading.skippedEmpty.toNat ∧
      reading.cancelled = false := by
  cases ends with
  | failed passed of =>
      rcases passed.of_stop rfl with ⟨whole, close⟩
      have heard := passed.history_lines _ done
      simp only [List.filterMap_cons, Doing.line?, List.filterMap_nil, List.append_nil] at heard
      have sum := linesRead_eq_add of
      exact ⟨close, heard.trans whole.symm, sum, of.going⟩

/-- What a reader says of itself when it stops is what it has done. -/
theorem tells (ends : Ends flagged source going final history.puts (.ok reading))
    (done : history.doings = going ++ final.toList) :
    Tells source history flagged reading where
  counted := ends.counted done
  dropped := by
    rcases ends.exists_dropped with ⟨dropped, few, sum, last⟩
    exact ⟨dropped, few, sum, last.trans (ends.losesLast_iff done).symm⟩
  error message := by
    rw [done, mem_going_iff ends.isLast_eq_false rfl]
    exact ends.error_eq_some_iff
  failed message same := by
    cases ends.error_eq_some_iff.mp same
    exact ends.of_failure done
  flag raised := by
    generalize history.puts = puts at ends
    cases ends with
    | flagged flag => exact flag
    | refused flag => exact flag (by simpa using raised)
    | exhausted _ of | failed _ of => cases of.going.symm.trans raised

/-- A reader stops by a fault if its source gives up behind its lines, which it has all put then, or
if there are more lines than can be counted. -/
theorem of_fault {fault : Fault}
    (ends : Ends flagged source going final puts (.error fault)) :
    (∃ message, fault = .raised message ∧ closeOf source = .gaveUp message ∧
        puts = nonEmpty (yielded source)) ∨
      fault = .overflow ∧ Count.limit ≤ (yielded source).length := by
  cases ends with
  | gaveUp passed =>
      rcases passed.of_stop rfl with ⟨whole, close⟩
      exact Or.inl ⟨_, rfl, close, congrArg nonEmpty whole.symm⟩
  | overflowed _ many => exact Or.inr ⟨rfl, many⟩

end Ends

/-- Where a thread is that reads a source into the queue and has this history. -/
inductive Client.Reads (source : List Entry) (history : History) (queue : Queue Nat String) :
    Client → Prop where
  | reading {reader : Reader}
      (account : reader.Account (queue.cancelled = true) True source history.puts)
      (follows : reader.Follows (queue.cancelled = true) (queue.ended = true) source
        history.doings history.puts) :
      Reads source history queue (.reading reader)
  | returned {result : Except Fault Reading} (marked : queue.ended = true)
      (ended : Ended (queue.cancelled = true) source history.doings history.puts result) :
      Reads source history queue (.ended (.produced result))

theorem Client.Reads.start (source : List Entry) (queue : Queue Nat String) :
    (Client.start (.produce source)).Reads source {} queue :=
  .reading (Reader.account_start _ _ source) (Reader.follows_start _ _ source [])

theorem Client.Reads.kept (thread : Nat) (source : List Entry) :
    Kept thread fun history queue client => client.Reads source history queue where
  own held ground stepped := by
    cases held with
    | returned => cases stepped
    | reading account follows =>
        rcases Option.map_eq_some_iff.mp stepped with ⟨step, moved, rfl⟩
        have raised := (Reader.advances moved).cancelled_mono
        have marked := (Reader.advances moved).ended_mono
        have account := account.mono raised
        have follows := follows.mono raised marked
        have later := (account.step moved ground raised fun _ _ _ _ _ => trivial).1
        have onwards := follows.step account moved ground raised id later
        cases there : step.reader with
        | finished result =>
            rw [there] at onwards
            exact .returned onwards.2 onwards.1
        | checking rest reading | asking rest reading | acting rest reading inside
        | pushing rest reading push | ending result call =>
            rw [there] at later onwards
            exact .reading later onwards
  others held raised marked := by
    cases held with
    | reading account follows => exact .reading (account.mono raised) (follows.mono raised marked)
    | returned done ended => exact .returned (marked done) (ended.mono raised)

/-- When a reader has returned, the end of the stream is marked, however it came to that.  Whatever
the other threads do meanwhile, what it reports of itself is what it has done; and behind the end of
its source, a failure of it, its giving up, or a refused push, it has done nothing.  If its source
gave up, all lines before that are put.  What it has put is in the queue until somebody takes it. -/
theorem reading_is_what_was_done (capacity : Count) (positive : 0 < capacity.toNat)
    (tasks : List Task) (thread : Nat) (source : List Entry)
    (given : tasks[thread]? = some (.produce source))
    (records : List (Record Session Nat Event)) (last : Session)
    (run : system.recorded.Run (opening capacity.toNat tasks) records last)
    (result : Except Fault Reading)
    (returned : last.clients[thread]? = some (.ended (.produced result))) :
    let history := historyOf thread records
    last.queue.ended = true ∧
      (∀ reading, result = .ok reading →
        Tells source history (last.queue.cancelled = true) reading) ∧
      (∀ message, result = .error (.raised message) ↔
        .asked (some (.fault message)) ∈ history.doings) ∧
      (∀ fault, result = .error fault →
        (∃ message, fault = .raised message ∧ closeOf source = .gaveUp message ∧
            history.puts = nonEmpty (yielded source)) ∨
          fault = .overflow ∧ Count.limit ≤ (yielded source).length) ∧
      StopsAtLast history.doings ∧
      (puts (observed records)).map Prod.snd =
        (takes (observed records)).map Prod.snd ++ last.queue.ring.toList := by
  intro history
  have told := (Client.Reads.kept thread source).along positive given (.start source) run
  rcases told.held with ⟨client, there, reads⟩
  cases returned.symm.trans there
  cases reads with
  | returned marked ended =>
      rcases ended with ⟨going, final, done, ends⟩
      refine ⟨marked, ?_, ?_, ?_, ?_, told.accounted.items⟩
      · rintro reading rfl
        exact ends.tells done
      · intro message
        rw [done, mem_going_iff ends.isLast_eq_false rfl]
        exact ends.eq_raised_iff
      · rintro fault rfl
        exact ends.of_fault
      · exact done ▸ stopsAtLast_of_going ends.isLast_eq_false

/-- A source that marks the end of the stream itself: the line behind that is read and refused, and
the one behind that is not read. -/
theorem reading_is_what_was_done_of_closed :
    let source : List Entry := [.line "", .line "a", .act .endStream, .line "b", .line "c"]
    let settled := system.recorded.settle (fun session => List.range session.clients.length) 40
      (opening 2 [.produce source, .pop])
    let reading : Reading := {
      linesRead := ⟨3, by decide⟩, produced := 1, skippedEmpty := 1 }
    settled.1.clients[0]? = some (.ended (.produced (.ok reading))) ∧
      Tells source (historyOf 0 settled.2) (settled.1.queue.cancelled = true) reading ∧
      (historyOf 0 settled.2).LosesLast := by
  intro source settled reading
  have returned : settled.1.clients[0]? = some (.ended (.produced (.ok reading))) :=
    ended_of_outcome? (by decide +kernel)
  have tells := (reading_is_what_was_done ⟨2, by decide⟩ (by decide) [.produce source, .pop] 0
    source rfl settled.2 settled.1 (system.recorded.run_settle ..) _ returned).2.1 reading rfl
  refine ⟨returned, tells, ?_⟩
  rcases tells.dropped with ⟨dropped, -, sum, last⟩
  have counted : 3 = 1 + 1 + dropped := sum
  exact last.mp (by omega)

end Session

end LineTally
