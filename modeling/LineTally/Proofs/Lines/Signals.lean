import LineTally.Lines.Splitter

/-!
# What a stream brings, one byte at a time

How a stream is read decides in which pieces its bytes arrive, but not which bytes they are.
Without the borders between reads, and without the reads that were only interrupted, a stream is a
sequence of signals: bytes, reads that found nothing, and failures.  A request for a line takes the
signals up to the first that ends a line, so neither the cutting into reads nor the size of the
buffer can be told from the answers.
-/

namespace LineTally.Lines

/-- What a stream brings. -/
inductive Signal where
  /-- A byte. -/
  | byte (value : UInt8)
  /-- Nothing: the stream has ended, though it may go on later. -/
  | nothing
  /-- An error, after which the stream may go on. -/
  | failure (error : IoError)

/-- What the answer to a read brings. -/
def Read.signals : Read → List Signal
  | .data [] => [.nothing]
  | .data (first :: rest) => (first :: rest).map .byte
  | .failure error => if error.interrupted then [] else [.failure error]

/-- What the answers to all reads bring. -/
def signals (reads : List Read) : List Signal :=
  reads.flatMap Read.signals

@[simp] theorem signals_cons (read : Read) (rest : List Read) :
    signals (read :: rest) = read.signals ++ signals rest :=
  List.flatMap_cons

@[simp] theorem signals_append (before after : List Read) :
    signals (before ++ after) = signals before ++ signals after :=
  List.flatMap_append

theorem Read.signals_data {bytes : List UInt8} (some : bytes ≠ []) :
    (Read.data bytes).signals = bytes.map .byte := by
  cases bytes with
  | nil => exact absurd rfl some
  | cons first rest => rfl

/-- What a stream brings: the bytes that wait in its buffer, and then what its reads bring. -/
def Stream.signals (stream : Stream) : List Signal :=
  stream.buffered.map .byte ++ Lines.signals stream.pending

/-- Takes signals up to the end of a line, behind bytes already taken.  Behind all signals the
stream has ended, or every read fails. -/
def scan (broken : Option IoError) (taken : List UInt8) : List Signal → Found × List Signal
  | [] => (broken.elim (.ofRest taken) .failed, [])
  | .byte value :: rest =>
    if value = lineFeed then (.bytes (taken ++ [value]), rest)
    else scan broken (taken ++ [value]) rest
  | .nothing :: rest => (.ofRest taken, rest)
  | .failure error :: rest => (.failed error, rest)

section Scan

variable {broken : Option IoError} {taken body : List UInt8} {later : List Signal}

/-- Bytes without a line feed are taken. -/
theorem scan_body (noFeed : lineFeed ∉ body) :
    scan broken taken (body.map .byte ++ later) = scan broken (taken ++ body) later := by
  induction body generalizing taken with
  | nil => rw [List.map_nil, List.nil_append, List.append_nil]
  | cons first rest ih =>
      rw [List.mem_cons, not_or] at noFeed
      rw [List.map_cons, List.cons_append, scan, if_neg (Ne.symm noFeed.1), ih noFeed.2,
        List.append_assoc, List.singleton_append]

/-- A line feed is the last byte that is taken. -/
theorem scan_line (noFeed : lineFeed ∉ body) :
    scan broken taken (body.map .byte ++ .byte lineFeed :: later) =
      (.bytes (taken ++ body ++ [lineFeed]), later) := by
  rw [scan_body noFeed, scan, if_pos rfl]

end Scan

/-- Bytes up to a line feed hold none. -/
theorem not_mem_takeWhile (bytes : List UInt8) : lineFeed ∉ bytes.takeWhile (· ≠ lineFeed) := by
  intro member
  have kept := List.all_takeWhile (p := (· ≠ lineFeed)) (l := bytes)
  simpa using List.all_eq_true.mp kept _ member

/-- What is behind all bytes but line feeds starts with one. -/
theorem eq_of_dropWhile {bytes after : List UInt8} {feed : UInt8}
    (found : bytes.dropWhile (· ≠ lineFeed) = feed :: after) :
    feed = lineFeed ∧ bytes = bytes.takeWhile (· ≠ lineFeed) ++ lineFeed :: after := by
  have first := List.head?_dropWhile_not (· ≠ lineFeed) bytes
  rw [found] at first
  have feed_eq : feed = lineFeed := by simpa using first
  refine ⟨feed_eq, ?_⟩
  rw [feed_eq] at found
  rw [← found, List.takeWhile_append_dropWhile]

/-- What a read of at most `size` bytes leaves, together with what it took. -/
theorem signals_leftover (size : Nat) {bytes : List UInt8} (some : bytes ≠ [])
    (rest : List Read) :
    (bytes.take size).map Signal.byte ++ signals (leftover size bytes rest) =
      signals (.data bytes :: rest) := by
  rw [signals_cons, Read.signals_data some]
  unfold leftover
  split
  next all => rw [List.take_of_length_le all]
  next more =>
    have left : bytes.drop size ≠ [] := by
      rw [ne_eq, List.drop_eq_nil_iff]
      exact more
    rw [signals_cons, Read.signals_data left, ← List.append_assoc, ← List.map_append,
      List.take_append_drop]

/-- A request for a line takes signals, in whatever reads they come. -/
theorem Stream.gather_eq_scan (stream : Stream) (taken : List UInt8) (room : 0 < stream.size) :
    ((stream.gather taken).1, (stream.gather taken).2.signals) =
        scan stream.broken taken stream.signals ∧
      (stream.gather taken).2.size = stream.size ∧
      (stream.gather taken).2.broken = stream.broken := by
  fun_induction Stream.gather stream taken with
  | case1 taken size byte rest pending broken more feed after found =>
      rcases eq_of_dropWhile found with ⟨rfl, split⟩
      have scanned : scan broken taken ((byte :: rest).map .byte ++ Lines.signals pending) =
          (.bytes (taken ++ more ++ [lineFeed]), after.map .byte ++ Lines.signals pending) := by
        rw [split, List.map_append, List.append_assoc, List.map_cons, List.cons_append,
          scan_line (not_mem_takeWhile _)]
      exact ⟨scanned.symm, rfl, rfl⟩
  | case2 taken size byte rest pending broken more found ih =>
      have all : more = byte :: rest := by
        rw [← List.takeWhile_append_dropWhile (p := (· ≠ lineFeed)) (l := byte :: rest), found,
          List.append_nil]
      have noFeed : lineFeed ∉ byte :: rest := all ▸ not_mem_takeWhile (byte :: rest)
      have same : scan broken (taken ++ more) (Lines.signals pending) =
          scan broken taken ((byte :: rest).map .byte ++ Lines.signals pending) := by
        rw [scan_body noFeed, all]
      exact ⟨(ih room).1.trans same, (ih room).2⟩
  | case3 | case4 => exact ⟨rfl, rfl, rfl⟩
  | case5 taken size error rest broken again ih =>
      have same : Lines.signals rest = Lines.signals (.failure error :: rest) := by
        rw [signals_cons, Read.signals, if_pos again, List.nil_append]
      exact ⟨(ih room).1.trans (congrArg (scan broken taken) same), (ih room).2⟩
  | case6 taken size error rest broken final =>
      have same : .failure error :: Lines.signals rest = Lines.signals (.failure error :: rest) := by
        rw [signals_cons, Read.signals, if_neg final, List.singleton_append]
      exact ⟨congrArg (scan broken taken) same, rfl, rfl⟩
  | case7 => exact ⟨rfl, rfl, rfl⟩
  | case8 taken size byte bytes rest broken _ ih =>
      have same := signals_leftover size (List.cons_ne_nil byte bytes) rest
      exact ⟨(ih room).1.trans (congrArg (scan broken taken) same), (ih room).2⟩
  | case9 taken size byte bytes rest broken none => exact absurd room none

/-! ## Answers -/

/-- The number of lines in an answer. -/
def Answer.lines : Answer → Nat
  | .line _ => 1
  | .finished | .failed _ => 0

namespace Splitter

theorem answers_succ (splitter : Splitter) (calls : Nat) :
    splitter.answers (calls + 1) =
      (splitter.nextLine.1, splitter.nextLine.2.linesRead) :: splitter.nextLine.2.answers calls :=
  rfl

/-- Only lines are counted. -/
theorem linesRead_nextLine (splitter : Splitter) :
    splitter.nextLine.2.linesRead = splitter.linesRead + splitter.nextLine.1.lines := by
  simp only [nextLine]
  cases Answer.ofFound (splitter.stream.gather []).1 with
  | line | finished | failed => rfl

/-- An answer and what is left behind it depend on the signals alone. -/
theorem nextLine_eq_scan (splitter : Splitter) (room : 0 < splitter.stream.size) :
    splitter.nextLine.1 =
        .ofFound (scan splitter.stream.broken [] splitter.stream.signals).1 ∧
      splitter.nextLine.2.stream.signals =
        (scan splitter.stream.broken [] splitter.stream.signals).2 ∧
      splitter.nextLine.2.stream.size = splitter.stream.size ∧
      splitter.nextLine.2.stream.broken = splitter.stream.broken := by
  rcases splitter.stream.gather_eq_scan [] room with ⟨scanned, size, broken⟩
  rw [← scanned]
  exact ⟨rfl, rfl, size, broken⟩

/-- Streams that bring the same, and end in the same way, give the same answers. -/
theorem answers_eq_of_signals {left right : Splitter} (calls : Nat)
    (signals : left.stream.signals = right.stream.signals)
    (broken : left.stream.broken = right.stream.broken) (roomLeft : 0 < left.stream.size)
    (roomRight : 0 < right.stream.size) (linesRead : left.linesRead = right.linesRead) :
    left.answers calls = right.answers calls := by
  induction calls generalizing left right with
  | zero => rfl
  | succ calls ih =>
      rcases left.nextLine_eq_scan roomLeft with ⟨answer, rest, size, still⟩
      rcases right.nextLine_eq_scan roomRight with ⟨answer', rest', size', still'⟩
      rw [signals, broken] at answer rest
      have same : left.nextLine.1 = right.nextLine.1 := answer.trans answer'.symm
      have read : left.nextLine.2.linesRead = right.nextLine.2.linesRead := by
        rw [linesRead_nextLine, linesRead_nextLine, same, linesRead]
      have later := ih (rest.trans rest'.symm) (still.trans (broken.trans still'.symm))
        (size ▸ roomLeft) (size' ▸ roomRight) read
      rw [answers_succ, answers_succ, same, read, later]

end Splitter

end LineTally.Lines
