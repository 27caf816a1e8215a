import LineTally.Proofs.Count
import LineTally.Proofs.Queue.Wakeups
import LineTally.Reader

/-!
# What the reader did

The reader is related to its source: the lines that it has read are the first that the source
yields, and those of them that are not empty are in the queue, or were.  Only the last line that was
read may be on its way there, or be refused.  When the reader stops, the reason is to be seen in its
result.
-/

namespace LineTally

/-! ## What a source yields -/

/-- The lines of a source up to its end, its failure or the point where it gives up. -/
def yielded : List Entry → List String
  | [] => []
  | .line text :: rest => text :: yielded rest
  | .act _ :: rest => yielded rest
  | .failure _ :: _ => []
  | .fault _ :: _ => []

/-- How a source ends. -/
inductive Close where
  | exhausted
  | failed (message : String)
  | gaveUp (message : String)

/-- How a source ends behind its lines. -/
def closeOf : List Entry → Close
  | [] => .exhausted
  | .line _ :: rest => closeOf rest
  | .act _ :: rest => closeOf rest
  | .failure message :: _ => .failed message
  | .fault message :: _ => .gaveUp message

/-- The lines that are worth a look. -/
def nonEmpty (lines : List String) : List String :=
  lines.filter (!·.isEmpty)

theorem nonEmpty_append (before after : List String) :
    nonEmpty (before ++ after) = nonEmpty before ++ nonEmpty after :=
  List.filter_append ..

theorem nonEmpty_singleton {text : String} (some : text.isEmpty = false) :
    nonEmpty [text] = [text] := by
  simp [nonEmpty, some]

theorem nonEmpty_of_isEmpty {text : String} (none : text.isEmpty = true) :
    nonEmpty [text] = [] := by
  simp [nonEmpty, none]

theorem length_nonEmpty_le (lines : List String) : (nonEmpty lines).length ≤ lines.length :=
  List.length_filter_le ..

/-- These are the counts of a reader that has read the first of these lines and put the second into
the queue. -/
structure Reading.Of (read put : List String) (reading : Reading) : Prop where
  linesRead : reading.linesRead.toNat = read.length
  produced : reading.produced.toNat = put.length
  skipped : reading.skippedEmpty.toNat = (read.filter (·.isEmpty)).length
  going : reading.cancelled = false
  sound : reading.error = none

theorem Reading.Of.start : Reading.Of [] [] {} :=
  ⟨rfl, rfl, rfl, rfl, rfl⟩

theorem Reading.Of.length_lt {read put : List String} {reading : Reading}
    (of : reading.Of read put) : read.length < Count.limit :=
  of.linesRead ▸ reading.linesRead.toNat_lt

/-- The counts of what is put and of what is read are in order. -/
theorem Reading.Of.bounds {read put rest all : List String} {reading : Reading}
    (of : reading.Of read put) (lines : all = read ++ rest) (fewer : put.length ≤ read.length) :
    reading.produced.toNat = put.length ∧ put.length ≤ reading.linesRead.toNat ∧
      reading.linesRead.toNat ≤ all.length := by
  rw [of.linesRead, lines, List.length_append]
  exact ⟨of.produced, fewer, Nat.le_add_right ..⟩

namespace Reader

open Queue

variable {ι : Type} [DecidableEq ι]

/-! ## The reader at the queue -/

/-- Where the reader is with regard to the queue. -/
def call : Reader → Call String
  | .acting _ _ inside => inside.call
  | .pushing _ _ push => .push push
  | .ending _ mark => .endStream mark
  | .checking .. | .asking .. | .finished _ => .away

theorem idle_receive (source : List Entry) (reading : Reading) (text : String) :
    (receive source reading text).call.Idle := by
  unfold receive
  split
  · exact .endStream
  · dsimp only
    split
    · split
      · exact .endStream
      · exact .away
    · exact .push text

theorem idle_afterPush (source : List Entry) (reading : Reading) (result : PushResult) :
    (afterPush source reading result).1.call.Idle := by
  cases result with
  | placed =>
      simp only [afterPush]
      split
      · exact .away
      · exact .endStream
  | refused reason =>
      cases reason with
      | cancelled => exact .endStream
      | closed => exact .endStream
  | faulted fault => exact .endStream

omit [DecidableEq ι] in
/-- Asking the source does not touch the queue. -/
theorem idle_ask (queue : Queue ι String) (source : List Entry) (reading : Reading) :
    (ask queue source reading).queue = queue ∧
      (ask queue source reading).transfer = none ∧
      (ask queue source reading).reader.call.Idle := by
  cases source with
  | nil => exact ⟨rfl, rfl, .endStream⟩
  | cons entry source =>
      cases entry with
      | line text => exact ⟨rfl, rfl, idle_receive source reading text⟩
      | failure message => exact ⟨rfl, rfl, .endStream⟩
      | fault message => exact ⟨rfl, rfl, .endStream⟩
      | act action => exact ⟨rfl, rfl, action.start_idle⟩

theorem advances {queue : Queue ι String} {me : ι} {pick : Nat} {reader : Reader}
    {step : Step ι} (stepped : reader.step queue me pick = some step) :
    Advances me queue reader.call step.transfer step.queue step.reader.call := by
  cases reader with
  | checking source reading =>
      simp only [Reader.step] at stepped
      split at stepped
      · cases stepped
        exact Call.Idle.away.advances .endStream
      · cases stepped
        exact Call.Idle.away.advances .away
  | asking source reading =>
      cases stepped
      rcases idle_ask queue source reading with ⟨same, nothing, idle⟩
      rw [same, nothing]
      exact Call.Idle.away.advances idle
  | acting source reading inside =>
      rcases Option.map_eq_some_iff.mp stepped with ⟨acted, moved, rfl⟩
      have turn := Acting.turn moved
      cases progress : acted.progress with
      | «at» inside =>
          rw [progress] at turn
          exact turn.advances
      | returned first =>
          rw [progress] at turn
          exact turn.advances_to .away
  | pushing source reading push =>
      rcases Option.map_eq_some_iff.mp stepped with ⟨move, moved, rfl⟩
      have turn := Push.turn moved
      cases progress : move.progress with
      | «at» push =>
          rw [progress] at turn
          exact turn.advances
      | returned result =>
          rw [progress] at turn
          exact turn.advances_to (idle_afterPush source reading result)
  | ending result mark =>
      rcases Option.map_eq_some_iff.mp stepped with ⟨move, moved, rfl⟩
      have turn := (EndStream.turn moved).1
      cases progress : move.progress with
      | «at» mark =>
          rw [progress] at turn
          exact turn.advances
      | returned first =>
          rw [progress] at turn
          exact turn.advances_to .away
  | finished result => cases stepped

/-- A reader without a step waits in a call, or has finished. -/
theorem waits {queue : Queue ι String} {me : ι} {pick : Nat} {reader : Reader}
    (stuck : reader.step queue me pick = none) :
    reader.call.Waits queue me ∨ ∃ result, reader = .finished result := by
  cases reader with
  | checking rest reading =>
      simp only [Reader.step] at stuck
      split at stuck <;> cases stuck
  | asking rest reading => cases stuck
  | acting rest reading inside => exact Or.inl (Acting.waits (Option.map_eq_none_iff.mp stuck))
  | pushing rest reading push => exact Or.inl (Push.waits (Option.map_eq_none_iff.mp stuck))
  | ending result mark => exact Or.inl (EndStream.waits (Option.map_eq_none_iff.mp stuck))
  | finished result => exact Or.inr ⟨result, rfl⟩

/-! ## The reader and its source -/

/-- What the reader has put and what it says, when it stops.  It reads at most one line that it does
not put although it is not empty: the one that was refused. -/
inductive Stopped (flagged closed : Prop) (source : List Entry) :
    List String → Except Fault Reading → Prop where
  | exhausted {reading : Reading} (close : closeOf source = .exhausted)
      (of : reading.Of (yielded source) (nonEmpty (yielded source))) :
      Stopped flagged closed source (nonEmpty (yielded source)) (.ok reading)
  | failed {reading : Reading} {message : String} (close : closeOf source = .failed message)
      (of : reading.Of (yielded source) (nonEmpty (yielded source))) :
      Stopped flagged closed source (nonEmpty (yielded source))
        (.ok { reading with error := some message })
  | gaveUp {message : String} (close : closeOf source = .gaveUp message)
      (fits : (yielded source).length < Count.limit) :
      Stopped flagged closed source (nonEmpty (yielded source)) (.error (.raised message))
  /-- There are more lines than can be counted. -/
  | overflowed {read rest : List String} {text : String}
      (lines : yielded source = read ++ text :: rest) (full : read.length + 1 = Count.limit) :
      Stopped flagged closed source (nonEmpty read) (.error .overflow)
  /-- The reader saw the flag before it asked for a line. -/
  | flagged {reading : Reading} {read rest : List String} (flag : flagged)
      (lines : yielded source = read ++ rest) (of : reading.Of read (nonEmpty read)) :
      Stopped flagged closed source (nonEmpty read) (.ok { reading with cancelled := true })
  | cancelled {reading : Reading} {read rest : List String} {text : String} (flag : flagged)
      (lines : yielded source = read ++ text :: rest) (some : text.isEmpty = false)
      (of : reading.Of (read ++ [text]) (nonEmpty read)) :
      Stopped flagged closed source (nonEmpty read) (.ok { reading with cancelled := true })
  | closed {reading : Reading} {read rest : List String} {text : String} (end_ : closed)
      (lines : yielded source = read ++ text :: rest) (some : text.isEmpty = false)
      (of : reading.Of (read ++ [text]) (nonEmpty read)) :
      Stopped flagged closed source (nonEmpty read) (.ok reading)

/-- Where the reader is that has put these lines. -/
def Account (flagged closed : Prop) (source : List Entry) (puts : List String) : Reader → Prop
  | .checking rest reading | .asking rest reading | .acting rest reading _ =>
      ∃ read, yielded source = read ++ yielded rest ∧ closeOf source = closeOf rest ∧
        reading.Of read (nonEmpty read) ∧ puts = nonEmpty read
  | .pushing rest reading push =>
      ∃ read text, yielded source = read ++ text :: yielded rest ∧
        closeOf source = closeOf rest ∧ text.isEmpty = false ∧
        reading.Of (read ++ [text]) (nonEmpty read) ∧ push.Of text ∧
        puts = nonEmpty read ++ push.placed text
  | .ending result _ | .finished result => Stopped flagged closed source puts result

variable {flagged closed : Prop} {source : List Entry} {puts : List String}

theorem account_start (flagged closed : Prop) (source : List Entry) :
    (start source).Account flagged closed source [] :=
  ⟨[], rfl, rfl, .start, rfl⟩

/-- What was said of the flag holds still when it is set. -/
theorem Account.mono {flagged' : Prop} {reader : Reader}
    (account : reader.Account flagged closed source puts) (set : flagged → flagged') :
    reader.Account flagged' closed source puts := by
  have stopped {result : Except Fault Reading}
      (stopped : Stopped flagged closed source puts result) :
      Stopped flagged' closed source puts result := by
    cases stopped with
    | exhausted close of => exact .exhausted close of
    | failed close of => exact .failed close of
    | gaveUp close fits => exact .gaveUp close fits
    | overflowed lines full => exact .overflowed lines full
    | flagged flag lines of => exact .flagged (set flag) lines of
    | cancelled flag lines some of => exact .cancelled (set flag) lines some of
    | closed end_ lines some of => exact .closed end_ lines some of
  cases reader with
  | ending | finished => exact stopped account
  | checking | asking | acting | pushing => exact account

/-- A line from the source is counted, and an empty one is skipped. -/
theorem account_receive {read : List String} {remaining : List Entry} {reading : Reading}
    {text : String} (lines : yielded source = read ++ text :: yielded remaining)
    (close : closeOf source = closeOf remaining) (of : reading.Of read (nonEmpty read)) :
    (receive remaining reading text).Account flagged closed source (nonEmpty read) := by
  unfold receive
  rcases Count.succ_cases reading.linesRead with ⟨next, more, counted⟩ | ⟨overflow, full⟩
  · simp only [more]
    have length : next.toNat = (read ++ [text]).length := by
      rw [counted, of.linesRead, List.length_append, List.length_singleton]
    split
    next none =>
      have skippedFits : reading.skippedEmpty.toNat + 1 < Count.limit := by
        have fewer := List.length_filter_le (·.isEmpty) read
        have below := next.toNat_lt
        rw [of.skipped]
        rw [length, List.length_append, List.length_singleton] at below
        omega
      rcases Count.succ_eq_ok skippedFits with ⟨skipped, skips, amount⟩
      simp only [skips]
      have same : nonEmpty (read ++ [text]) = nonEmpty read := by
        rw [nonEmpty_append, nonEmpty_of_isEmpty none, List.append_nil]
      refine ⟨read ++ [text], by simpa using lines, close, ?_, same.symm⟩
      exact ⟨length, by rw [same]; exact of.produced, by simp [amount, of.skipped, none],
        of.going, of.sound⟩
    next some =>
      have some : text.isEmpty = false := by simpa using some
      refine ⟨read, text, lines, close, some, ?_, rfl, by simp [Push.placed]⟩
      exact ⟨length, of.produced, by simp [of.skipped, some], of.going, of.sound⟩
  · simp only [overflow]
    exact Stopped.overflowed lines (of.linesRead ▸ full)

/-- The reader knows what it has to do about every way in which its push may end. -/
theorem account_afterPush {read : List String} {remaining : List Entry} {reading : Reading}
    {text : String} {result : PushResult}
    (lines : yielded source = read ++ text :: yielded remaining)
    (close : closeOf source = closeOf remaining) (some : text.isEmpty = false)
    (of : reading.Of (read ++ [text]) (nonEmpty read))
    (flag : result = .refused .cancelled → flagged)
    (end_ : result = .refused .closed → closed) (sound : ∀ fault, result ≠ .faulted fault) :
    (afterPush remaining reading result).1.Account flagged closed source
      (nonEmpty read ++ result.items text) := by
  cases result with
  | placed =>
      have fits : reading.produced.toNat + 1 < Count.limit := by
        have fewer := length_nonEmpty_le read
        have below := of.length_lt
        rw [List.length_append, List.length_singleton] at below
        rw [of.produced]
        omega
      rcases Count.succ_eq_ok fits with ⟨produced, more, amount⟩
      have longer : nonEmpty (read ++ [text]) = nonEmpty read ++ [text] := by
        rw [nonEmpty_append, nonEmpty_singleton some]
      simp only [afterPush, more]
      refine ⟨read ++ [text], by simpa using lines, close, ?_, longer.symm⟩
      exact ⟨of.linesRead, by simp [amount, of.produced, longer], of.skipped, of.going, of.sound⟩
  | refused reason =>
      rw [PushResult.items, List.append_nil]
      cases reason with
      | cancelled => exact Stopped.cancelled (flag rfl) lines some of
      | closed => exact Stopped.closed (end_ rfl) lines some of
      all_goals simp
  | faulted fault => exact absurd rfl (sound fault)

/-- A step keeps account of what is put, as long as pushes do not fault. -/
theorem Account.step {queue : Queue ι String} {me : ι} {pick : Nat} {reader : Reader}
    {step : Step ι} (account : reader.Account flagged closed source puts)
    (stepped : reader.step queue me pick = some step) (ground : reader.call.Grounded queue)
    (flag : queue.cancelled = true → flagged)
    (end_ : ∀ rest reading push, reader = .pushing rest reading push →
      queue.ended = true → closed) :
    step.reader.Account flagged closed source (puts ++ entered step.transfer) ∧
      departed step.transfer = [] := by
  cases reader with
  | checking rest reading =>
      rcases account with ⟨read, lines, close, of, rfl⟩
      simp only [Reader.step] at stepped
      split at stepped
      next raised =>
        cases stepped
        simp only [entered, List.append_nil]
        exact ⟨Stopped.flagged (flag raised) lines of, rfl⟩
      next =>
        cases stepped
        exact ⟨⟨read, lines, close, of, by simp [entered]⟩, rfl⟩
  | asking rest reading =>
      rcases account with ⟨read, lines, close, of, rfl⟩
      cases stepped
      have whole (none : yielded rest = []) : read = yielded source := by
        rw [lines, none, List.append_nil]
      cases rest with
      | nil =>
          rw [whole rfl] at of ⊢
          simp only [ask, entered, List.append_nil]
          exact ⟨Stopped.exhausted close of, rfl⟩
      | cons entry rest =>
          cases entry with
          | line text =>
              simp only [ask, entered, List.append_nil]
              exact ⟨account_receive lines close of, rfl⟩
          | failure message =>
              rw [whole rfl] at of ⊢
              simp only [ask, entered, List.append_nil]
              exact ⟨Stopped.failed close of, rfl⟩
          | fault message =>
              rw [whole rfl] at of ⊢
              simp only [ask, entered, List.append_nil]
              exact ⟨Stopped.gaveUp close of.length_lt, rfl⟩
          | act action => exact ⟨⟨read, lines, close, of, by simp [ask, entered]⟩, rfl⟩
  | acting rest reading inside =>
      rcases account with ⟨read, lines, close, of, rfl⟩
      rcases Option.map_eq_some_iff.mp stepped with ⟨acted, moved, rfl⟩
      cases progress : acted.progress <;>
        exact ⟨⟨read, lines, close, of, by simp [entered]⟩, rfl⟩
  | pushing rest reading push =>
      rcases account with ⟨read, text, lines, close, some, of, same, rfl⟩
      rcases Option.map_eq_some_iff.mp stepped with ⟨move, moved, rfl⟩
      rcases Push.step_placed same moved with
        ⟨nothing, ⟨next, progress, same, more⟩ | ⟨result, rfl, progress, none⟩⟩
      · rw [progress]
        refine ⟨⟨read, text, lines, close, some, of, same, ?_⟩, nothing⟩
        rw [more, List.append_assoc]
      · rw [progress]
        refine ⟨?_, nothing⟩
        simp only [none, List.append_nil, Push.placed]
        apply account_afterPush lines close some of
        · rintro rfl
          exact flag ground
        · rintro rfl
          exact end_ _ _ _ rfl ground
        · rintro fault rfl
          exact ground
  | ending result mark =>
      rcases Option.map_eq_some_iff.mp stepped with ⟨move, moved, rfl⟩
      cases progress : move.progress <;>
      · simp only [entered, List.append_nil]
        exact ⟨account, rfl⟩
  | finished result => cases stepped

/-- A reader that is not told to stop puts all lines of its source, as far as they can be counted. -/
theorem Stopped.exists_read {result : Except Fault Reading}
    (stopped : Stopped flagged False source puts result) :
    ∃ read, puts = nonEmpty read ∧ read <+: (yielded source).take (Count.limit - 1) ∧
      (¬ flagged → read = (yielded source).take (Count.limit - 1)) := by
  have short {read rest : List String} (lines : yielded source = read ++ rest)
      (fits : read.length < Count.limit) : read <+: (yielded source).take (Count.limit - 1) :=
    List.prefix_take_iff.mpr ⟨⟨rest, lines.symm⟩, Nat.le_sub_one_of_lt fits⟩
  have whole (fits : (yielded source).length < Count.limit) :
      yielded source = (yielded source).take (Count.limit - 1) :=
    (List.take_of_length_le (Nat.le_sub_one_of_lt fits)).symm
  cases stopped with
  | exhausted _ of | failed _ of =>
      exact ⟨_, rfl, short (List.append_nil _).symm of.length_lt, fun _ => whole of.length_lt⟩
  | gaveUp _ fits => exact ⟨_, rfl, short (List.append_nil _).symm fits, fun _ => whole fits⟩
  | @overflowed read rest text lines full =>
      refine ⟨read, rfl, short lines (by omega), fun _ => ?_⟩
      rw [← full, Nat.add_sub_cancel, lines, List.take_left]
  | flagged flag lines of =>
      exact ⟨_, rfl, short lines of.length_lt, fun clear => absurd flag clear⟩
  | @cancelled _ read rest text flag lines _ of =>
      have fits := of.length_lt
      rw [List.length_append, List.length_singleton] at fits
      exact ⟨read, rfl, short lines (by omega), fun clear => absurd flag clear⟩
  | closed end_ => exact end_.elim

/-- A reader that stops without a fault has counted what it read and what it put. -/
theorem Stopped.counted {reading : Reading}
    (stopped : Stopped flagged closed source puts (.ok reading)) :
    reading.produced.toNat = puts.length ∧ puts.length ≤ reading.linesRead.toNat ∧
      reading.linesRead.toNat ≤ (yielded source).length := by
  cases stopped with
  | exhausted _ of | failed _ of =>
      have bounds := of.bounds (List.append_nil _).symm (length_nonEmpty_le _)
      exact bounds
  | flagged _ lines of =>
      have bounds := of.bounds lines (length_nonEmpty_le _)
      exact bounds
  | @cancelled _ read rest text _ lines _ of | @closed _ read rest text _ lines _ of =>
      have fewer : (nonEmpty read).length ≤ (read ++ [text]).length := by
        rw [List.length_append]
        exact (length_nonEmpty_le read).trans (Nat.le_add_right ..)
      have bounds := of.bounds (lines.trans (List.append_cons ..)) fewer
      exact bounds

/-- A reader stops by a fault only if its source gives up, or gives more lines than can be
counted. -/
theorem Stopped.faulted {fault : Fault}
    (stopped : Stopped flagged closed source puts (.error fault)) :
    (∃ message, closeOf source = .gaveUp message) ∨ Count.limit ≤ (yielded source).length := by
  cases stopped with
  | gaveUp close _ => exact Or.inl ⟨_, close⟩
  | overflowed lines full =>
      right
      rw [lines, List.length_append, List.length_cons]
      omega

/-- What is put is the beginning of what the source yields, without the empty lines, and there are
not more lines than can be counted. -/
theorem Account.puts_prefix {reader : Reader}
    (account : reader.Account flagged closed source puts) :
    puts <+: nonEmpty (yielded source) ∧ puts.length < Count.limit := by
  have first {read rest : List String} (lines : yielded source = read ++ rest) :
      nonEmpty read <+: nonEmpty (yielded source) := by
    rw [lines, nonEmpty_append]
    exact List.prefix_append ..
  have shorter {read : List String} (fits : read.length < Count.limit) :
      (nonEmpty read).length < Count.limit :=
    lt_of_le_of_lt (length_nonEmpty_le read) fits
  have stopped {result : Except Fault Reading}
      (stopped : Stopped flagged closed source puts result) :
      puts <+: nonEmpty (yielded source) ∧ puts.length < Count.limit := by
    cases stopped with
    | exhausted _ of | failed _ of => exact ⟨List.prefix_rfl, shorter of.length_lt⟩
    | gaveUp _ fits => exact ⟨List.prefix_rfl, shorter fits⟩
    | overflowed lines full => exact ⟨first lines, shorter (by omega)⟩
    | flagged _ lines of => exact ⟨first lines, shorter of.length_lt⟩
    | cancelled _ lines _ of | closed _ lines _ of =>
        refine ⟨first lines, shorter (lt_of_le_of_lt ?_ of.length_lt)⟩
        simp
  cases reader with
  | checking rest reading | asking rest reading | acting rest reading inside =>
      rcases account with ⟨read, lines, -, of, rfl⟩
      exact ⟨first lines, shorter of.length_lt⟩
  | pushing rest reading push =>
      rcases account with ⟨read, text, lines, -, some, of, -, rfl⟩
      have placed : push.placed text <+: [text] := by
        cases push with
        | leaving result => cases result <;> simp [Push.placed, PushResult.items]
        | _ => simp [Push.placed]
      have longer : nonEmpty (read ++ [text]) = nonEmpty read ++ [text] := by
        rw [nonEmpty_append, nonEmpty_singleton some]
      have begins : nonEmpty read ++ push.placed text <+: nonEmpty (read ++ [text]) := by
        rw [longer]
        exact (List.prefix_append_right_inj _).mpr placed
      have all : yielded source = (read ++ [text]) ++ yielded rest := by
        rw [lines, List.append_assoc, List.singleton_append]
      exact ⟨begins.trans (first all), lt_of_le_of_lt begins.length_le (shorter of.length_lt)⟩
  | ending result mark | finished result => exact stopped account

end Reader

end LineTally
