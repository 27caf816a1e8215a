import LineTally.Proofs.Lines.Chunks
import LineTally.Proofs.Scan.Exactness

/-!
# The lines that a scan gets from a stream

A stream brings some bytes and then ends, or fails.  The lines that come of it are those of the
bytes; if the stream fails, the bytes behind the last line feed are dropped.
-/

namespace LineTally.Lines

/-- The reads bring these bytes, and then the stream ends, or fails with an error. -/
inductive Delivers : List Read → List UInt8 → Option IoError → Prop where
  /-- There is nothing more to read. -/
  | whole {bytes : List UInt8} {reads : List Read} (chunks : Chunks bytes reads) :
      Delivers reads bytes none
  /-- A read finds nothing. -/
  | ended {bytes : List UInt8} {reads : List Read} (chunks : Chunks bytes reads) :
      Delivers (reads ++ [.data []]) bytes none
  /-- A read fails. -/
  | broken {bytes : List UInt8} {reads : List Read} {error : IoError}
      (final : error.interrupted = false) (chunks : Chunks bytes reads) (later : List Read) :
      Delivers (reads ++ .failure error :: later) bytes (some error)

/-- The lines that come of some bytes if the stream ends behind them, or fails. -/
def deliveredLines (bytes : List UInt8) : Option IoError → List String
  | none => linesOf bytes
  | some _ => endedLines bytes

/-- A splitter gets these bytes from its stream, and then the stream ends, or fails. -/
inductive Splitter.Brings : Splitter → List UInt8 → Option IoError → Prop where
  /-- They come in some reads. -/
  | reads {reads : List Read} {bytes : List UInt8} {failure : Option IoError}
      (delivers : Delivers reads bytes failure) {size : Nat} (room : 0 < size) :
      Brings (.ofReads reads size) bytes failure
  /-- Every read fails. -/
  | failing {error : IoError} (final : error.interrupted = false) :
      Brings (.ofFailing error) [] (some error)

/-- Bytes that are there all at once are delivered. -/
theorem delivers_data (bytes : List UInt8) : Delivers [.data bytes] bytes none := by
  by_cases none : bytes = []
  · subst none
    exact .ended .done
  · have chunks := Chunks.chunk bytes none .done
    rw [List.append_nil] at chunks
    exact .whole chunks

theorem deliveredLines_append {body : List UInt8} (noFeed : lineFeed ∉ body) (rest : List UInt8)
    (failure : Option IoError) : deliveredLines (body ++ lineFeed :: rest) failure =
      textOf (dropReturn body) :: deliveredLines rest failure := by
  cases failure with
  | none => exact linesOf_append noFeed rest
  | some error => exact endedLines_append noFeed rest

/-! ## Bounds -/

theorem length_linesOf_le (bytes : List UInt8) : (linesOf bytes).length ≤ bytes.length := by
  induction bytes using induction_lines with
  | last body noFeed =>
      rw [linesOf_of_not_mem noFeed]
      split
      · exact Nat.zero_le _
      next some => exact List.length_pos_iff.mpr some
  | line body rest noFeed ih =>
      rw [linesOf_append noFeed, List.length_cons, List.length_append, List.length_cons]
      omega

theorem length_deliveredLines_le (bytes : List UInt8) (failure : Option IoError) :
    (deliveredLines bytes failure).length ≤ bytes.length := by
  have all := length_linesOf_le bytes
  cases failure with
  | none => exact all
  | some error =>
      rw [linesOf, List.length_append] at all
      exact Nat.le_trans (Nat.le_add_right _ _) all

theorem weight_append (before after : List Read) :
    weight (before ++ after) = weight before + weight after := by
  induction before with
  | nil => exact (Nat.zero_add _).symm
  | cons read rest ih =>
      cases read with
      | data bytes => simp only [List.cons_append, weight, ih, Nat.add_assoc]
      | failure error => simp only [List.cons_append, weight, ih, Nat.add_assoc]

theorem Chunks.length_le_weight {bytes : List UInt8} {reads : List Read}
    (chunks : Chunks bytes reads) : bytes.length ≤ weight reads := by
  induction chunks with
  | done => exact Nat.le_refl 0
  | chunk piece _ _ ih =>
      rw [List.length_append, weight]
      omega
  | again _ _ ih =>
      rw [weight]
      omega

/-- No stream delivers more bytes than its reads have. -/
theorem Delivers.length_le_weight {reads : List Read} {bytes : List UInt8}
    {failure : Option IoError} (delivers : Delivers reads bytes failure) :
    bytes.length ≤ weight reads := by
  cases delivers with
  | whole chunks => exact chunks.length_le_weight
  | ended chunks | broken _ chunks =>
      rw [weight_append]
      exact Nat.le_trans chunks.length_le_weight (Nat.le_add_right _ _)

/-! ## Lines one by one -/

theorem Delivers.signals_eq {reads : List Read} {bytes : List UInt8} {failure : Option IoError}
    (delivers : Delivers reads bytes failure) :
    ∃ tail, Finish tail failure ∧ signals reads = bytes.map .byte ++ tail := by
  cases delivers with
  | whole chunks => exact ⟨[], .whole, by rw [chunks.signals_eq, List.append_nil]⟩
  | ended chunks =>
      refine ⟨_, .ended, ?_⟩
      rw [signals_append, chunks.signals_eq]
      rfl
  | @broken _ _ error final chunks later =>
      refine ⟨_, .broken error (signals later), ?_⟩
      rw [signals_append, chunks.signals_eq, signals_cons, Read.signals, final]
      rfl

namespace Splitter

section Calls

variable {splitter : Splitter}

theorem linesUpTo_of_line {text : String} (answer : splitter.nextLine.1 = .line text)
    (calls : Nat) :
    splitter.linesUpTo (calls + 1) = .line text :: splitter.nextLine.2.linesUpTo calls := by
  simp only [linesUpTo, answer]

theorem linesUpTo_of_finished (answer : splitter.nextLine.1 = .finished) (calls : Nat) :
    splitter.linesUpTo (calls + 1) = [] := by
  simp only [linesUpTo, answer]

theorem linesUpTo_of_failed {error : IoError} (answer : splitter.nextLine.1 = .failed error)
    (calls : Nat) : splitter.linesUpTo (calls + 1) = [.failed error] := by
  simp only [linesUpTo, answer]

variable {tail : List Signal} {body : List UInt8}

/-- A stream that fails drops what is left. -/
theorem nextLine_of_failure {error : IoError} (room : 0 < splitter.stream.size)
    (noFeed : lineFeed ∉ body) (finish : Finish tail (some error))
    (brings : splitter.stream.signals = body.map .byte ++ tail) :
    splitter.nextLine.1 = .failed error := by
  rcases splitter.nextLine_eq_scan room with ⟨answer, -⟩
  cases finish with
  | broken _ later =>
      rw [brings, scan_body noFeed] at answer
      exact answer

theorem linesUpTo_of_nothing (room : 0 < splitter.stream.size)
    (whole : splitter.stream.broken = none) (nothing : splitter.stream.signals = [])
    (calls : Nat) : splitter.linesUpTo calls = [] := by
  cases calls with
  | zero => rfl
  | succ calls =>
      have answer := nextLine_of_end room whole List.not_mem_nil .whole nothing
      exact linesUpTo_of_finished answer.1 calls

/-- Without a line feed before its end, a stream gives what it brings as a line, unless it fails. -/
theorem linesUpTo_of_not_mem (room : 0 < splitter.stream.size)
    (whole : splitter.stream.broken = none) (noFeed : lineFeed ∉ body) {failure : Option IoError}
    (finish : Finish tail failure)
    (brings : splitter.stream.signals = body.map .byte ++ tail) (calls : Nat) :
    splitter.linesUpTo (calls + 1) =
      (deliveredLines body failure).map .line ++ (failure.map .failed).toList := by
  cases failure with
  | some error =>
      rw [deliveredLines, endedLines_of_not_mem noFeed]
      exact linesUpTo_of_failed (nextLine_of_failure room noFeed finish brings) calls
  | none =>
      rcases nextLine_of_end room whole noFeed finish brings with ⟨answer, left⟩
      rcases splitter.nextLine_eq_scan room with ⟨-, -, size, still⟩
      rw [deliveredLines, linesOf_of_not_mem noFeed]
      by_cases empty : body = []
      · rw [if_pos empty] at answer ⊢
        exact linesUpTo_of_finished answer calls
      · rw [if_neg empty] at answer ⊢
        rw [linesUpTo_of_line answer, linesUpTo_of_nothing (size ▸ room) (still.trans whole) left]
        rfl

end Calls

/-- All lines that a stream brings are handed out, and then its error if it fails. -/
theorem linesUpTo_of_signals {splitter : Splitter} (room : 0 < splitter.stream.size)
    (whole : splitter.stream.broken = none) {bytes : List UInt8} {tail : List Signal}
    {failure : Option IoError} (finish : Finish tail failure)
    (brings : splitter.stream.signals = bytes.map .byte ++ tail) {calls : Nat}
    (enough : (deliveredLines bytes failure).length < calls) :
    splitter.linesUpTo calls =
      (deliveredLines bytes failure).map .line ++ (failure.map .failed).toList := by
  induction bytes using induction_lines generalizing splitter calls with
  | last body noFeed =>
      cases calls with
      | zero => exact absurd enough (Nat.not_lt_zero _)
      | succ calls => exact linesUpTo_of_not_mem room whole noFeed finish brings calls
  | line body rest noFeed ih =>
      rw [deliveredLines_append noFeed] at enough ⊢
      cases calls with
      | zero => exact absurd enough (Nat.not_lt_zero _)
      | succ calls =>
          have brings : splitter.stream.signals =
              body.map .byte ++ .byte lineFeed :: (rest.map .byte ++ tail) := by
            simpa using brings
          rcases nextLine_of_line room noFeed brings with ⟨answer, left⟩
          rcases splitter.nextLine_eq_scan room with ⟨-, -, size, still⟩
          rw [linesUpTo_of_line answer, ih (size ▸ room) (still.trans whole) left
            (Nat.lt_of_succ_lt_succ enough)]
          rfl

/-- A stream hands out the lines of its bytes, however it is cut into reads. -/
theorem Brings.lines_eq {splitter : Splitter} {bytes : List UInt8} {failure : Option IoError}
    (brings : splitter.Brings bytes failure) :
    splitter.lines = (deliveredLines bytes failure).map .line ++ (failure.map .failed).toList := by
  cases brings with
  | @reads reads bytes failure delivers size room =>
      rcases delivers.signals_eq with ⟨tail, finish, brings⟩
      have enough : (deliveredLines bytes failure).length < (ofReads reads size).size + 1 := by
        have few := length_deliveredLines_le bytes failure
        have many := delivers.length_le_weight
        change _ < 0 + weight reads + 1
        omega
      have whole : (ofReads reads size).stream.broken = none := rfl
      exact linesUpTo_of_signals room whole finish brings enough
  | @failing error _ =>
      have answer : (ofFailing error).nextLine.1 = .failed error := by
        simp [nextLine, ofFailing, Stream.gather, Answer.ofFound]
      exact linesUpTo_of_failed answer 0

end Splitter

end LineTally.Lines

namespace LineTally.Scan

/-- A scan of a stream gets the lines of its bytes, and its error if it fails. -/
theorem Feed.ofSplitter_of_brings {splitter : Lines.Splitter} {bytes : List UInt8}
    {failure : Option IoError} (brings : splitter.Brings bytes failure) :
    ofSplitter splitter =
      ofLines (Lines.deliveredLines bytes failure) (failure.map (·.message)) := by
  have lines (texts : List String) :
      (texts.map Lines.Answer.line).filterMap ofAnswer? = texts.map .line := by
    rw [List.filterMap_map]
    exact congrFun (List.filterMap_eq_map (f := Feed.line)) texts
  rw [ofSplitter, brings.lines_eq, List.filterMap_append, lines, ofLines]
  cases failure <;> rfl

end LineTally.Scan
