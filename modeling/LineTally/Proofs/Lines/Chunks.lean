import LineTally.Count
import LineTally.Proofs.Lines.Signals

/-!
# The lines of a stream, however it is cut

The lines of some bytes are what stands before each line feed, without a carriage return right
before it, and what stands behind the last line feed if anything does.  A stream that brings these
bytes answers with these lines, wherever it is cut into reads, whatever fits its buffer, and however
often a read is interrupted.  A stream that also pauses or fails in between answers by the same
rules from the place where it goes on.
-/

namespace LineTally.Lines

/-! ## The lines of some bytes -/

/-- The bytes before a line feed, without a carriage return at their end. -/
def dropReturn (body : List UInt8) : List UInt8 :=
  if body.getLast? = some carriageReturn then body.dropLast else body

/-- Bytes as text. -/
def textOf (bytes : List UInt8) : String :=
  String.ofList (Text.Utf8.decode bytes)

/-- The texts of the lines that end with a line feed. -/
def endedLines (bytes : List UInt8) : List String :=
  (bytes.splitOn lineFeed).dropLast.map fun body => textOf (dropReturn body)

/-- The bytes behind the last line feed. -/
def openLine (bytes : List UInt8) : List UInt8 :=
  (bytes.splitOn lineFeed).getLast (List.splitOn_ne_nil lineFeed bytes)

/-- The texts of all lines: what is behind the last line feed is a line unless it is empty. -/
def linesOf (bytes : List UInt8) : List String :=
  endedLines bytes ++ if openLine bytes = [] then [] else [textOf (openLine bytes)]

section Pieces

variable {body : List UInt8}

theorem endedLines_of_not_mem (noFeed : lineFeed ∉ body) : endedLines body = [] := by
  rw [endedLines, List.splitOn_eq_singleton noFeed]
  rfl

theorem endedLines_append (noFeed : lineFeed ∉ body) (rest : List UInt8) :
    endedLines (body ++ lineFeed :: rest) = textOf (dropReturn body) :: endedLines rest := by
  rw [endedLines, List.splitOn_append_cons_self_of_not_mem noFeed,
    List.dropLast_cons_of_ne_nil (List.splitOn_ne_nil lineFeed rest), List.map_cons]
  rfl

theorem openLine_of_not_mem (noFeed : lineFeed ∉ body) : openLine body = body := by
  simp [openLine, List.splitOn_eq_singleton noFeed]

theorem openLine_append (noFeed : lineFeed ∉ body) (rest : List UInt8) :
    openLine (body ++ lineFeed :: rest) = openLine rest := by
  simp only [openLine, List.splitOn_append_cons_self_of_not_mem noFeed]
  exact List.getLast_cons (List.splitOn_ne_nil lineFeed rest)

theorem linesOf_of_not_mem (noFeed : lineFeed ∉ body) :
    linesOf body = if body = [] then [] else [textOf body] := by
  rw [linesOf, endedLines_of_not_mem noFeed, openLine_of_not_mem noFeed, List.nil_append]

theorem linesOf_append (noFeed : lineFeed ∉ body) (rest : List UInt8) :
    linesOf (body ++ lineFeed :: rest) = textOf (dropReturn body) :: linesOf rest := by
  rw [linesOf, endedLines_append noFeed, openLine_append noFeed, List.cons_append]
  rfl

end Pieces

/-- What holds of lists without a separator, and of lists with one if it holds of what is behind it,
holds of all lists. -/
theorem induction_pieces {α : Type} [DecidableEq α] (separator : α) {property : List α → Prop}
    (last : ∀ body, separator ∉ body → property body)
    (piece : ∀ body rest, separator ∉ body → property rest → property (body ++ separator :: rest))
    (list : List α) : property list := by
  by_cases there : separator ∈ list
  · rcases List.eq_append_cons_of_mem there with ⟨body, rest, split, noSeparator⟩
    have shorter : rest.length < list.length := by
      rw [split, List.length_append, List.length_cons]
      omega
    exact split ▸ piece body rest noSeparator (induction_pieces separator last piece rest)
  · exact last list there
termination_by list.length

/-- Induction over the lines of some bytes. -/
theorem induction_lines {property : List UInt8 → Prop}
    (last : ∀ body, lineFeed ∉ body → property body)
    (line : ∀ body rest, lineFeed ∉ body → property rest → property (body ++ lineFeed :: rest))
    (bytes : List UInt8) : property bytes :=
  induction_pieces lineFeed last line bytes

/-! ## What a request for a line answers -/

theorem stripTerminator_line (body : List UInt8) :
    stripTerminator (body ++ [lineFeed]) = dropReturn body := by
  rw [stripTerminator, List.getLast?_concat, if_pos rfl, List.dropLast_concat]
  rfl

theorem stripTerminator_of_not_mem {body : List UInt8} (noFeed : lineFeed ∉ body) :
    stripTerminator body = body := by
  rw [stripTerminator, if_neg]
  intro last
  exact noFeed (List.mem_of_getLast? last)

/-- A line feed ends a line. -/
theorem ofFound_line (body : List UInt8) :
    Answer.ofFound (.bytes (body ++ [lineFeed])) = .line (textOf (dropReturn body)) := by
  rw [Answer.ofFound, stripTerminator_line]
  rfl

/-- What is left at the end is a line unless it is empty. -/
theorem ofFound_ofRest {body : List UInt8} (noFeed : lineFeed ∉ body) :
    Answer.ofFound (.ofRest body) = if body = [] then .finished else .line (textOf body) := by
  cases body with
  | nil => rfl
  | cons first rest =>
      rw [Found.ofRest, Answer.ofFound, stripTerminator_of_not_mem noFeed]
      rfl

/-- The next request is answered with this, and these signals are left. -/
inductive Gives : List Signal → Answer → List Signal → Prop where
  /-- A line feed ends a line. -/
  | line {body : List UInt8} {later : List Signal} (noFeed : lineFeed ∉ body) :
      Gives (body.map .byte ++ .byte lineFeed :: later) (.line (textOf (dropReturn body))) later
  /-- A pause ends a line that has begun. -/
  | pausedLine {body : List UInt8} {later : List Signal} (noFeed : lineFeed ∉ body)
      (some : body ≠ []) : Gives (body.map .byte ++ .nothing :: later) (.line (textOf body)) later
  | paused {later : List Signal} : Gives (.nothing :: later) .finished later
  /-- An error drops the bytes of the line that has begun. -/
  | failed {body : List UInt8} {error : IoError} {later : List Signal} (noFeed : lineFeed ∉ body) :
      Gives (body.map .byte ++ .failure error :: later) (.failed error) later
  /-- The end ends a line that has begun. -/
  | endedLine {body : List UInt8} (noFeed : lineFeed ∉ body) (some : body ≠ []) :
      Gives (body.map .byte) (.line (textOf body)) []
  | ended : Gives [] .finished []

/-- Signals start with bytes of one line, up to what ends it. -/
theorem exists_opening (signals : List Signal) :
    ∃ (body : List UInt8) (tail : List Signal), signals = body.map .byte ++ tail ∧
      lineFeed ∉ body ∧ (tail = [] ∨ (∃ later, tail = .byte lineFeed :: later) ∨
        (∃ later, tail = .nothing :: later) ∨ ∃ error later, tail = .failure error :: later) := by
  induction signals with
  | nil => exact ⟨[], [], rfl, List.not_mem_nil, Or.inl rfl⟩
  | cons signal rest ih =>
      cases signal with
      | byte value =>
          by_cases feed : value = lineFeed
          · subst feed
            exact ⟨[], _, rfl, List.not_mem_nil, Or.inr (Or.inl ⟨rest, rfl⟩)⟩
          · rcases ih with ⟨body, tail, rfl, noFeed, kind⟩
            refine ⟨value :: body, tail, rfl, ?_, kind⟩
            rw [List.mem_cons, not_or]
            exact ⟨Ne.symm feed, noFeed⟩
      | nothing =>
          exact ⟨[], _, rfl, List.not_mem_nil, Or.inr (Or.inr (Or.inl ⟨rest, rfl⟩))⟩
      | failure error =>
          exact ⟨[], _, rfl, List.not_mem_nil, Or.inr (Or.inr (Or.inr ⟨error, rest, rfl⟩))⟩

/-- Taking signals up to the end of a line gives the answer to a request. -/
theorem gives_scan (signals : List Signal) :
    Gives signals (.ofFound (scan none [] signals).1) (scan none [] signals).2 := by
  rcases exists_opening signals with ⟨body, tail, rfl, noFeed, kind⟩
  rw [scan_body noFeed, List.nil_append]
  rcases kind with rfl | ⟨later, rfl⟩ | ⟨later, rfl⟩ | ⟨error, later, rfl⟩
  · rw [List.append_nil, scan, Option.elim_none, ofFound_ofRest noFeed]
    split
    next none => exact none ▸ .ended
    next some => exact .endedLine noFeed some
  · rw [scan, if_pos rfl, ofFound_line]
    exact .line noFeed
  · rw [scan, ofFound_ofRest noFeed]
    split
    next none => exact none ▸ .paused
    next some => exact .pausedLine noFeed some
  · exact .failed noFeed

/-- Requests are answered with these, and with these numbers of lines, when a number of lines has
been handed out before. -/
inductive Answered : List Signal → Nat → List (Answer × Nat) → Prop where
  | nothing (signals : List Signal) (linesRead : Nat) : Answered signals linesRead []
  | next {signals rest : List Signal} {linesRead : Nat} {answer : Answer}
      {later : List (Answer × Nat)} (gives : Gives signals answer rest)
      (further : Answered rest (linesRead + answer.lines) later) :
      Answered signals linesRead ((answer, linesRead + answer.lines) :: later)

theorem Splitter.answered (splitter : Splitter) (room : 0 < splitter.stream.size)
    (whole : splitter.stream.broken = none) (calls : Nat) :
    Answered splitter.stream.signals splitter.linesRead (splitter.answers calls) := by
  induction calls generalizing splitter with
  | zero => exact .nothing _ _
  | succ calls ih =>
      rcases splitter.nextLine_eq_scan room with ⟨answer, rest, size, still⟩
      have gives := gives_scan splitter.stream.signals
      rw [whole] at answer rest still
      rw [← answer, ← rest] at gives
      have further := ih splitter.nextLine.2 (size ▸ room) still
      rw [answers_succ, linesRead_nextLine]
      rw [linesRead_nextLine] at further
      exact .next gives further

/-! ## How many lines there are -/

/-- The signal is a byte. -/
def Signal.isByte : Signal → Bool
  | .byte _ => true
  | .nothing | .failure _ => false

/-- The number of bytes that the reads bring. -/
def bytesOf (reads : List Read) : Nat :=
  (signals reads).countP Signal.isByte

/-- A line takes a byte at least. -/
theorem Gives.lines_add_countP_le {signals rest : List Signal} {answer : Answer}
    (gives : Gives signals answer rest) :
    answer.lines + rest.countP Signal.isByte ≤ signals.countP Signal.isByte := by
  have taken (body : List UInt8) : (body.map Signal.byte).countP Signal.isByte = body.length := by
    rw [List.countP_map]
    exact List.countP_eq_length.mpr fun _ _ => rfl
  cases gives with
  | line =>
      rw [List.countP_append, taken, List.countP_cons_of_pos rfl, Answer.lines]
      omega
  | pausedLine noFeed some =>
      have byte := List.length_pos_iff.mpr some
      rw [List.countP_append, taken, List.countP_cons_of_neg Bool.false_ne_true, Answer.lines]
      omega
  | paused =>
      rw [List.countP_cons_of_neg Bool.false_ne_true, Answer.lines]
      omega
  | failed =>
      rw [List.countP_append, taken, List.countP_cons_of_neg Bool.false_ne_true, Answer.lines]
      omega
  | endedLine noFeed some =>
      rw [taken, List.countP_nil, Answer.lines, Nat.add_zero]
      exact List.length_pos_iff.mpr some
  | ended => exact Nat.le_refl 0

/-- No more lines are handed out than there are bytes. -/
theorem Answered.le_countP {signals : List Signal} {linesRead : Nat}
    {answers : List (Answer × Nat)} (answered : Answered signals linesRead answers) :
    ∀ answer ∈ answers, answer.2 ≤ linesRead + signals.countP Signal.isByte := by
  induction answered with
  | nothing => exact List.forall_mem_nil _
  | next gives _ ih =>
      have fewer := gives.lines_add_countP_le
      refine List.forall_mem_cons.mpr ⟨by omega, fun answer among => ?_⟩
      have later := ih answer among
      omega

/-- A stream never hands out more lines than it has bytes, so their number is a count unless there
are more bytes than can be counted. -/
theorem Splitter.exists_count_of_answers {reads : List Read} {size : Nat} (room : 0 < size)
    (few : bytesOf reads < Count.limit) {calls : Nat} {answer : Answer × Nat}
    (among : answer ∈ (ofReads reads size).answers calls) :
    ∃ count : Count, answer.2 = count.toNat ∧ count.toNat ≤ bytesOf reads := by
  have answered : Answered (signals reads) 0 ((ofReads reads size).answers calls) :=
    (ofReads reads size).answered room rfl calls
  have within : answer.2 ≤ bytesOf reads := by
    simpa [bytesOf] using answered.le_countP answer among
  exact ⟨⟨answer.2, Nat.lt_of_le_of_lt within few⟩, rfl, within⟩

/-! ## Streams of nothing but bytes -/

/-- The reads bring these bytes, in pieces that are not empty, and may be interrupted in between. -/
inductive Chunks : List UInt8 → List Read → Prop where
  | done : Chunks [] []
  | chunk (piece : List UInt8) {bytes : List UInt8} {reads : List Read} (some : piece ≠ [])
      (further : Chunks bytes reads) : Chunks (piece ++ bytes) (.data piece :: reads)
  | again {bytes : List UInt8} {error : IoError} {reads : List Read}
      (interrupted : error.interrupted = true) (further : Chunks bytes reads) :
      Chunks bytes (.failure error :: reads)

/-- Reads of bytes alone bring nothing else. -/
theorem Chunks.signals_eq {bytes : List UInt8} {reads : List Read} (chunks : Chunks bytes reads) :
    signals reads = bytes.map .byte := by
  induction chunks with
  | done => rfl
  | chunk piece some _ ih => rw [signals_cons, Read.signals_data some, ih, List.map_append]
  | again interrupted _ ih =>
      rw [signals_cons, Read.signals, if_pos interrupted, List.nil_append, ih]

/-- The answer to a request, and the number of lines handed out by then, of a stream that brings
these lines and then ends for good; `call` requests were made before. -/
def reply (texts : List String) (call : Nat) : Answer × Nat :=
  match texts[call]? with
  | some text => (.line text, call + 1)
  | none => (.finished, texts.length)

theorem reply_cons_succ (text : String) (texts : List String) (call : Nat) :
    reply (text :: texts) (call + 1) =
      ((reply texts call).1, (reply texts call).2 + 1) := by
  simp only [reply, List.getElem?_cons_succ, List.length_cons]
  cases texts[call]? <;> rfl

/-- What a stream brings behind its bytes when it ends, or fails. -/
inductive Finish : List Signal → Option IoError → Prop where
  | whole : Finish [] none
  | ended : Finish [.nothing] none
  | broken (error : IoError) (later : List Signal) : Finish (.failure error :: later) (some error)

namespace Splitter

/-- A stream that ends gives what is left as a line, if there is something left. -/
theorem nextLine_of_end {splitter : Splitter} (room : 0 < splitter.stream.size)
    (whole : splitter.stream.broken = none) {body : List UInt8} (noFeed : lineFeed ∉ body)
    {tail : List Signal} (finish : Finish tail none)
    (brings : splitter.stream.signals = body.map .byte ++ tail) :
    splitter.nextLine.1 = (if body = [] then .finished else .line (textOf body)) ∧
      splitter.nextLine.2.stream.signals = [] := by
  rcases splitter.nextLine_eq_scan room with ⟨answer, left, -⟩
  have scanned : scan none [] (body.map .byte ++ tail) = (.ofRest body, []) := by
    rw [scan_body noFeed]
    cases finish <;> rfl
  rw [whole, brings, scanned] at answer left
  exact ⟨answer.trans (ofFound_ofRest noFeed), left⟩

/-- A stream with a line feed gives the bytes before it as a line. -/
theorem nextLine_of_line {splitter : Splitter} (room : 0 < splitter.stream.size)
    {body : List UInt8} {later : List Signal} (noFeed : lineFeed ∉ body)
    (brings : splitter.stream.signals = body.map .byte ++ .byte lineFeed :: later) :
    splitter.nextLine.1 = .line (textOf (dropReturn body)) ∧
      splitter.nextLine.2.stream.signals = later := by
  rcases splitter.nextLine_eq_scan room with ⟨answer, rest, -⟩
  rw [brings, scan_line noFeed, List.nil_append] at answer rest
  exact ⟨answer.trans (ofFound_line body), rest⟩

/-- A stream of bytes gives its first line and goes on behind it, or has ended. -/
theorem nextLine_of_bytes {splitter : Splitter} (room : 0 < splitter.stream.size)
    (whole : splitter.stream.broken = none) {bytes : List UInt8}
    (brings : splitter.stream.signals = bytes.map .byte) :
    (linesOf bytes = [] ∧ splitter.nextLine.1 = .finished ∧
        splitter.nextLine.2.stream.signals = ([] : List UInt8).map .byte) ∨
      ∃ text rest, linesOf bytes = text :: linesOf rest ∧ splitter.nextLine.1 = .line text ∧
        splitter.nextLine.2.stream.signals = rest.map .byte := by
  by_cases feed : lineFeed ∈ bytes
  · right
    rcases List.eq_append_cons_of_mem feed with ⟨body, rest, split, noFeed⟩
    rw [split, List.map_append, List.map_cons] at brings
    rcases nextLine_of_line room noFeed brings with ⟨answer, left⟩
    exact ⟨_, rest, split ▸ linesOf_append noFeed rest, answer, left⟩
  · rw [← List.append_nil (bytes.map _)] at brings
    rcases nextLine_of_end room whole feed .whole brings with ⟨answer, left⟩
    rw [linesOf_of_not_mem feed]
    by_cases none : bytes = []
    · left
      rw [if_pos none] at answer ⊢
      exact ⟨rfl, answer, left⟩
    · right
      rw [if_neg none] at answer ⊢
      exact ⟨_, [], rfl, answer, left⟩

/-- A stream of bytes answers with its lines, one by one, and from then on that it has ended. -/
theorem answers_of_bytes {splitter : Splitter} (room : 0 < splitter.stream.size)
    (whole : splitter.stream.broken = none) {bytes : List UInt8}
    (brings : splitter.stream.signals = bytes.map .byte) (calls : Nat) :
    splitter.answers calls = (List.range calls).map fun call =>
      ((reply (linesOf bytes) call).1, splitter.linesRead + (reply (linesOf bytes) call).2) := by
  induction calls generalizing splitter bytes with
  | zero => rfl
  | succ calls ih =>
      rcases splitter.nextLine_eq_scan room with ⟨-, -, size, still⟩
      have go {rest : List UInt8} (left : splitter.nextLine.2.stream.signals = rest.map .byte) :=
        ih (size ▸ room) (still.trans whole) left
      rw [answers_succ, List.range_succ_eq_map, List.map_cons, List.map_map]
      rcases nextLine_of_bytes room whole brings with ⟨lines, answer, left⟩ |
        ⟨text, rest, lines, answer, left⟩
      · rw [go left, lines, linesRead_nextLine, answer]
        rfl
      · rw [go left, lines, linesRead_nextLine, answer]
        refine congrArg _ (List.map_congr_left fun call _ => ?_)
        rw [Function.comp_apply, reply_cons_succ, Answer.lines]
        simp only [Prod.mk.injEq, true_and]
        omega

end Splitter

/-- The answers of a stream do not tell how it is cut into reads, what its buffer holds, or how
often a read was interrupted.  A stream of some bytes answers with their lines, numbered, and then
that it has ended, for ever.  A stream that pauses or fails in between answers by the rules for
lines from where it goes on: a pause ends a line that has begun, and an error drops it. -/
theorem answers_do_not_tell_reads :
    (∀ (bytes : List UInt8) (reads : List Read) (size : Nat), Chunks bytes reads → 0 < size →
      ∀ calls, (Splitter.ofReads reads size).answers calls =
        (List.range calls).map (reply (linesOf bytes))) ∧
    (∀ (reads others : List Read) (size other : Nat), 0 < size → 0 < other →
      signals reads = signals others →
      ∀ calls, (Splitter.ofReads reads size).answers calls =
        (Splitter.ofReads others other).answers calls) ∧
    ∀ (reads : List Read) (size : Nat), 0 < size →
      ∀ calls, Answered (signals reads) 0 ((Splitter.ofReads reads size).answers calls) := by
  refine ⟨?_, ?_, ?_⟩
  · intro bytes reads size chunks room calls
    have whole : (Splitter.ofReads reads size).stream.broken = none := rfl
    have answers := Splitter.answers_of_bytes room whole chunks.signals_eq calls
    rw [answers]
    exact List.map_congr_left fun call _ => Prod.ext rfl (Nat.zero_add _)
  · intro reads others size other room roomOther same calls
    exact Splitter.answers_eq_of_signals calls same rfl room roomOther rfl
  · intro reads size room calls
    exact (Splitter.ofReads reads size).answered room rfl calls

/-- A line feed behind its carriage return, and the second byte of a letter, each in a read of its
own; an interruption; and room for one byte at a time. -/
theorem answers_do_not_tell_reads_of_straddled :
    let interruption : IoError := { interrupted := true, message := "interrupted" }
    let reads : List Read :=
      [.data [0x61, 0x0D], .failure interruption, .data [0x0A, 0xC3], .data [0xA9]]
    Chunks [0x61, 0x0D, 0x0A, 0xC3, 0xA9] reads ∧
      (Splitter.ofReads reads 1).answers 4 =
        [(.line "a", 1), (.line "é", 2), (.finished, 2), (.finished, 2)] ∧
      (Splitter.ofReads reads 1).answers 4 =
        (Splitter.ofReads [.data [0x61, 0x0D, 0x0A, 0xC3, 0xA9]] 8192).answers 4 ∧
      Answered (signals reads) 0
        [(.line "a", 1), (.line "é", 2), (.finished, 2), (.finished, 2)] := by
  intro interruption reads
  have chunks : Chunks [0x61, 0x0D, 0x0A, 0xC3, 0xA9] reads :=
    .chunk [0x61, 0x0D] (by decide) <| .again rfl <|
      .chunk [0x0A, 0xC3] (by decide) <| .chunk [0xA9] (by decide) .done
  have lines : (List.range 4).map (reply (linesOf [0x61, 0x0D, 0x0A, 0xC3, 0xA9])) =
      [(.line "a", 1), (.line "é", 2), (.finished, 2), (.finished, 2)] := by decide
  have answers := answers_do_not_tell_reads.1 _ reads 1 chunks (by decide) 4
  rw [lines] at answers
  refine ⟨chunks, answers, ?_, ?_⟩
  · exact answers_do_not_tell_reads.2.1 reads [.data [0x61, 0x0D, 0x0A, 0xC3, 0xA9]] 1 8192
      (by decide) (by decide) rfl 4
  · rw [← answers]
    exact answers_do_not_tell_reads.2.2 reads 1 (by decide) 4

end LineTally.Lines
