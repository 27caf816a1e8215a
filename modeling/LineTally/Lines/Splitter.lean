import LineTally.Failure
import LineTally.Text.Utf8

/-!
# Cutting a stream of bytes into lines

A stream answers each read with some bytes, with none at its end, or with an error.  Reads go
through a buffer of a fixed size.  A line ends at a line feed, which is dropped together with a
carriage return right before it; a stream that ends inside a line gives the rest as a line.  An
interrupted read is repeated; any other error drops the part of a line read so far.
-/

namespace LineTally.Lines

/-- The answer of a stream to one read, however many bytes it is asked for. -/
inductive Read where
  /-- Some bytes; none at the end of the stream. -/
  | data (bytes : List UInt8)
  /-- The read failed. -/
  | failure (error : IoError)
  deriving DecidableEq, Repr

/-- The byte that ends a line. -/
def lineFeed : UInt8 := 10

/-- The byte that is dropped before the end of a line. -/
def carriageReturn : UInt8 := 13

/-- A bound on the reads that a stream can still answer with something. -/
def weight : List Read → Nat
  | [] => 0
  | .data bytes :: rest => bytes.length + 1 + weight rest
  | .failure _ :: rest => 1 + weight rest

/-- A buffered stream of bytes. -/
structure Stream where
  /-- The greatest number of bytes taken in by one read. -/
  size : Nat
  /-- The bytes read and not yet used. -/
  buffered : List UInt8 := []
  /-- The answers still to come. -/
  pending : List Read
  /-- How every read after them fails; if it does not, the stream has ended. -/
  broken : Option IoError := none
  deriving DecidableEq, Repr

/-- What was found in the stream in search of the end of a line. -/
inductive Found where
  /-- The bytes of a line, with the line feed if the stream did not end first. -/
  | bytes (line : List UInt8)
  /-- The end of the stream, with nothing before it. -/
  | nothing
  /-- An error. -/
  | failed (error : IoError)
  deriving DecidableEq, Repr

/-- The stream ended behind some bytes. -/
def Found.ofRest : List UInt8 → Found
  | [] => .nothing
  | byte :: rest => .bytes (byte :: rest)

/-- The rest of the answers, after a read of at most `size` bytes of the first. -/
def leftover (size : Nat) (bytes : List UInt8) (rest : List Read) : List Read :=
  if bytes.length ≤ size then rest else .data (bytes.drop size) :: rest

/-- An answer of which a read took something weighs less. -/
theorem weight_leftover_lt {size : Nat} {bytes : List UInt8} (rest : List Read)
    (room : 0 < size) : weight (leftover size bytes rest) < weight (.data bytes :: rest) := by
  unfold leftover
  split
  · simp only [weight]
    omega
  · simp only [weight, List.length_drop]
    omega

/-- Takes bytes up to the end of a line, behind those already taken. -/
def Stream.gather (stream : Stream) (taken : List UInt8) : Found × Stream :=
  match stream with
  | { size, buffered := byte :: rest, pending, broken } =>
    let more := (byte :: rest).takeWhile (· ≠ lineFeed)
    match (byte :: rest).dropWhile (· ≠ lineFeed) with
    | feed :: after =>
      (.bytes (taken ++ more ++ [feed]), { size, buffered := after, pending, broken })
    | [] => gather { size, buffered := [], pending, broken } (taken ++ more)
  | { size, buffered := [], pending := [], broken } =>
    match broken with
    | some error => (.failed error, { size, pending := [], broken })
    | none => (.ofRest taken, { size, pending := [], broken })
  | { size, buffered := [], pending := .failure error :: rest, broken } =>
    if error.interrupted then gather { size, pending := rest, broken } taken
    else (.failed error, { size, pending := rest, broken })
  | { size, buffered := [], pending := .data [] :: rest, broken } =>
    (.ofRest taken, { size, pending := rest, broken })
  | { size, buffered := [], pending := .data (byte :: bytes) :: rest, broken } =>
    if 0 < size then
      gather {
        size
        buffered := (byte :: bytes).take size
        pending := leftover size (byte :: bytes) rest
        broken } taken
    else (.ofRest taken, { size, pending := .data (byte :: bytes) :: rest, broken })
termination_by (weight stream.pending, stream.buffered.length)
decreasing_by
  · exact Prod.Lex.right _ (by simp)
  · exact Prod.Lex.left _ _ (by simp [weight])
  · exact Prod.Lex.left _ _ (weight_leftover_lt rest (by assumption))

/-- A line without its terminator. -/
def stripTerminator (line : List UInt8) : List UInt8 :=
  if line.getLast? = some lineFeed then
    let body := line.dropLast
    if body.getLast? = some carriageReturn then body.dropLast else body
  else line

/-- What a request for a line answers. -/
inductive Answer where
  /-- A line. -/
  | line (text : String)
  /-- The stream has ended. -/
  | finished
  /-- The stream failed. -/
  | failed (error : IoError)
  deriving DecidableEq, Repr

/-- The answer for what was found: terminators are dropped, and bytes decoded loosely. -/
def Answer.ofFound : Found → Answer
  | .bytes taken => .line (String.ofList (Text.Utf8.decode (stripTerminator taken)))
  | .nothing => .finished
  | .failed error => .failed error

/-- A stream that is read line by line. -/
structure Splitter where
  /-- The stream. -/
  stream : Stream
  /-- The number of lines handed out.  Each of them took a byte at least, so no stream that fits a
  machine has more of them than can be counted. -/
  linesRead : Nat := 0
  deriving DecidableEq, Repr

namespace Splitter

/-- The size of a buffer when nothing else is asked for. -/
def defaultSize : Nat := 8192

/-- Starts to read the answers of a stream through a buffer. -/
def ofReads (reads : List Read) (size : Nat) : Splitter :=
  { stream := { size, pending := reads } }

/-- Starts to read bytes that come all at once. -/
def ofBytes (bytes : List UInt8) : Splitter :=
  ofReads [.data bytes] defaultSize

/-- Starts to read a stream of which every read fails. -/
def ofFailing (error : IoError) : Splitter :=
  { stream := { size := defaultSize, pending := [], broken := some error } }

/-- The next line, the end, or an error. -/
def nextLine (splitter : Splitter) : Answer × Splitter :=
  let (found, stream) := splitter.stream.gather []
  let answer := Answer.ofFound found
  let linesRead := match answer with
    | .line _ => splitter.linesRead + 1
    | _ => splitter.linesRead
  (answer, { stream, linesRead })

/-- The answers to a number of requests, each with the number of lines handed out by then. -/
def answers (splitter : Splitter) : Nat → List (Answer × Nat)
  | 0 => []
  | calls + 1 =>
    let (answer, next) := splitter.nextLine
    (answer, next.linesRead) :: next.answers calls

/-- A bound on the lines that a stream can still give. -/
def size (splitter : Splitter) : Nat :=
  splitter.stream.buffered.length + weight splitter.stream.pending

/-- The answers up to the first that is no line, as many as asked for at most. -/
def linesUpTo (splitter : Splitter) : Nat → List Answer
  | 0 => []
  | calls + 1 =>
    let (answer, next) := splitter.nextLine
    match answer with
    | .line text => .line text :: next.linesUpTo calls
    | .finished => []
    | .failed error => [.failed error]

/-- All lines up to the end or the first error, which comes last. -/
def lines (splitter : Splitter) : List Answer :=
  splitter.linesUpTo (splitter.size + 1)

end Splitter

end LineTally.Lines
