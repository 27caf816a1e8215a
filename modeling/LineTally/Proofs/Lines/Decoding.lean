import LineTally.Proofs.Lines.Chunks
import LineTally.Proofs.Text.Loose

/-!
# Decoding line by line is decoding the whole

The bytes of a stream are cut at line feeds, and every line is decoded by itself.  The lines are the
same when the bytes are decoded first, all at once, and the text is cut: no stretch of bytes that is
no text goes past a line feed or a carriage return, and no line feed or carriage return of the text
comes of anything but its own byte.
-/

namespace LineTally.Lines

open Text.Utf8

/-! ## The lines of a text -/

/-- The characters before a line feed, without a carriage return at their end. -/
def dropReturnChar (body : List Char) : List Char :=
  if body.getLast? = some '\r' then body.dropLast else body

/-- The characters behind the last line feed. -/
def openText (text : List Char) : List Char :=
  (text.splitOn '\n').getLast (List.splitOn_ne_nil '\n' text)

/-- The lines of a text: what stands before each line feed, without a carriage return right before
it, and what stands behind the last line feed unless it is empty. -/
def linesOfText (text : List Char) : List (List Char) :=
  (text.splitOn '\n').dropLast.map dropReturnChar ++
    if openText text = [] then [] else [openText text]

theorem linesOfText_of_not_mem {body : List Char} (noFeed : '\n' ∉ body) :
    linesOfText body = if body = [] then [] else [body] := by
  simp only [linesOfText, openText, List.splitOn_eq_singleton noFeed]
  rfl

theorem linesOfText_append {body : List Char} (noFeed : '\n' ∉ body) (rest : List Char) :
    linesOfText (body ++ '\n' :: rest) = dropReturnChar body :: linesOfText rest := by
  have some := List.splitOn_ne_nil '\n' rest
  simp only [linesOfText, openText, List.splitOn_append_cons_self_of_not_mem noFeed,
    List.dropLast_cons_of_ne_nil some, List.getLast_cons some]
  rfl

/-- A text is these lines, each with its terminator: a line feed, alone or behind a carriage return.
The last line may do without, unless it is empty. -/
inductive Joined : List (List Char) → List Char → Prop where
  | nothing : Joined [] []
  | last {body : List Char} (noFeed : '\n' ∉ body) (some : body ≠ []) : Joined [body] body
  | feed {body text : List Char} {lines : List (List Char)} (noFeed : '\n' ∉ body)
      (noReturn : body.getLast? ≠ some '\r') (further : Joined lines text) :
      Joined (body :: lines) (body ++ '\n' :: text)
  | returnFeed {body text : List Char} {lines : List (List Char)} (noFeed : '\n' ∉ body)
      (further : Joined lines text) : Joined (body :: lines) (body ++ '\r' :: '\n' :: text)

theorem dropReturnChar_concat (body : List Char) : dropReturnChar (body ++ ['\r']) = body := by
  rw [dropReturnChar, List.getLast?_concat, if_pos rfl, List.dropLast_concat]

theorem dropReturnChar_of_ne {body : List Char} (noReturn : body.getLast? ≠ some '\r') :
    dropReturnChar body = body :=
  if_neg noReturn

theorem joined_linesOfText (text : List Char) : Joined (linesOfText text) text := by
  induction text using induction_pieces '\n' with
  | last body noFeed =>
      rw [linesOfText_of_not_mem noFeed]
      split
      next none => exact none ▸ .nothing
      next some => exact .last noFeed some
  | piece body rest noFeed ih =>
      rw [linesOfText_append noFeed]
      by_cases ret : body.getLast? = some '\r'
      · rcases List.getLast?_eq_some_iff.mp ret with ⟨body, rfl⟩
        have joined := Joined.returnFeed (fun feed => noFeed (List.mem_append_left _ feed)) ih
        rw [dropReturnChar_concat, List.append_assoc]
        exact joined
      · rw [dropReturnChar_of_ne ret]
        exact .feed noFeed ret ih

/-- The lines of a text are those that it is joined from. -/
theorem joined_iff {lines : List (List Char)} {text : List Char} :
    Joined lines text ↔ lines = linesOfText text := by
  refine ⟨fun joined => ?_, fun same => same ▸ joined_linesOfText text⟩
  induction joined with
  | nothing => rfl
  | last noFeed some => rw [linesOfText_of_not_mem noFeed, if_neg some]
  | feed noFeed noReturn _ ih =>
      rw [linesOfText_append noFeed, dropReturnChar_of_ne noReturn, ih]
  | @returnFeed body text lines noFeed _ ih =>
      have noFeed : '\n' ∉ body ++ ['\r'] := by
        rw [List.mem_append, not_or]
        exact ⟨noFeed, by decide⟩
      have first := linesOfText_append noFeed text
      rw [List.append_assoc, dropReturnChar_concat, ← ih] at first
      exact first.symm

/-! ## Cutting and decoding -/

theorem lineFeed_mem_of_mem_decode {body : List UInt8} (feed : '\n' ∈ decode body) :
    lineFeed ∈ body := by
  rcases List.append_of_mem feed with ⟨before, after, split⟩
  have read := readAs_decode body
  rw [split] at read
  have ascii : lineFeed.toNat < 0x80 := by decide
  rcases ReadAs.exists_of_ascii ascii read with ⟨before, after, rfl, -⟩
  exact List.mem_append_right before List.mem_cons_self

theorem getLast?_of_getLast?_decode {body : List UInt8}
    (ret : (decode body).getLast? = some '\r') : body.getLast? = some carriageReturn := by
  rcases List.getLast?_eq_some_iff.mp ret with ⟨before, split⟩
  have read := readAs_decode body
  rw [split] at read
  have ascii : carriageReturn.toNat < 0x80 := by decide
  rcases ReadAs.exists_of_ascii ascii read with ⟨before, after, rfl, last⟩
  rw [last.eq_nil_iff.mp rfl, List.getLast?_concat]

/-- A carriage return is dropped from the bytes as from the text. -/
theorem decode_dropReturn (body : List UInt8) :
    decode (dropReturn body) = dropReturnChar (decode body) := by
  rw [dropReturn]
  split
  next ret =>
    rcases List.getLast?_eq_some_iff.mp ret with ⟨body, rfl⟩
    have read : decode (body ++ [carriageReturn]) = decode body ++ ['\r'] :=
      decode_append_ascii (by decide) body []
    rw [read, dropReturnChar_concat, List.dropLast_concat]
  next ret =>
    rw [dropReturnChar_of_ne fun last => ret (getLast?_of_getLast?_decode last)]

/-- The lines of some bytes, each decoded by itself, are the lines of the text that the bytes are as
a whole. -/
theorem linesOf_eq (bytes : List UInt8) :
    linesOf bytes = (linesOfText (decode bytes)).map String.ofList := by
  have kept {body : List UInt8} (noFeed : lineFeed ∉ body) : '\n' ∉ decode body :=
    fun feed => noFeed (lineFeed_mem_of_mem_decode feed)
  induction bytes using induction_lines with
  | last body noFeed =>
      rw [linesOf_of_not_mem noFeed, linesOfText_of_not_mem (kept noFeed)]
      simp only [decode_eq_nil_iff]
      split <;> rfl
  | line body rest noFeed ih =>
      have read : decode (body ++ lineFeed :: rest) = decode body ++ '\n' :: decode rest :=
        decode_append_ascii (by decide) body rest
      rw [linesOf_append noFeed, read, linesOfText_append (kept noFeed), List.map_cons, ih, textOf,
        decode_dropReturn]

/-- A stream of some bytes answers with the lines of the text that the bytes are as a whole.  This
text has one replacement character for each stretch that is no text, and its lines are those that it
is joined from with their terminators.  If the bytes are those of a text, it is that text. -/
theorem answers_eq_lines_of_text {bytes : List UInt8} {reads : List Read} {size : Nat}
    (chunks : Chunks bytes reads) (room : 0 < size) (calls : Nat) :
    (∀ chars, ReadAs bytes chars ↔ chars = decode bytes) ∧
    (∀ lines, Joined lines (decode bytes) ↔ lines = linesOfText (decode bytes)) ∧
    (Splitter.ofReads reads size).answers calls =
      (List.range calls).map (reply ((linesOfText (decode bytes)).map String.ofList)) ∧
    ∀ text, bytes = encode text →
      decode bytes = text.toList ∧ Joined (linesOfText (decode bytes)) text.toList := by
  refine ⟨fun _ => readAs_iff, fun _ => joined_iff, ?_, ?_⟩
  · have whole : (Splitter.ofReads reads size).stream.broken = none := rfl
    rw [Splitter.answers_of_bytes room whole chunks.signals_eq calls, ← linesOf_eq]
    exact List.map_congr_left fun call _ => Prod.ext rfl (Nat.zero_add _)
  · rintro text rfl
    rw [decode_encode]
    exact ⟨rfl, joined_linesOfText text.toList⟩

/-- A character that breaks off before a carriage return, which stands in the next read; and a text,
cut inside of a character. -/
theorem answers_eq_lines_of_text_of_broken :
    let broken : List UInt8 := [0x61, 0xE2, 0x82, 0x0D, 0x0A, 0xFF, 0xC3, 0x0A, 0x62]
    let brokenReads : List Read :=
      [.data [0x61, 0xE2, 0x82], .data [0x0D, 0x0A, 0xFF, 0xC3, 0x0A, 0x62]]
    let reads : List Read := [.data [0x61, 0x0D, 0x0A, 0xC3], .data [0xA9, 0x0D]]
    (Chunks broken brokenReads ∧
      (Splitter.ofReads brokenReads 4).answers 4 =
        [(.line "a\uFFFD", 1), (.line "\uFFFD\uFFFD", 2), (.line "b", 3), (.finished, 3)]) ∧
    Chunks (encode "a\r\né\r") reads ∧
      (Splitter.ofReads reads 4).answers 3 = [(.line "a", 1), (.line "é\r", 2), (.finished, 2)] ∧
      decode (encode "a\r\né\r") = "a\r\né\r".toList ∧
      Joined [['a'], ['é', '\r']] "a\r\né\r".toList := by
  intro broken brokenReads reads
  have chunks : Chunks broken brokenReads :=
    .chunk [0x61, 0xE2, 0x82] (by decide) <|
      .chunk [0x0D, 0x0A, 0xFF, 0xC3, 0x0A, 0x62] (by decide) .done
  have chunks' : Chunks (encode "a\r\né\r") reads :=
    .chunk [0x61, 0x0D, 0x0A, 0xC3] (by decide) <| .chunk [0xA9, 0x0D] (by decide) .done
  have lines : (List.range 4).map (reply ((linesOfText (decode broken)).map String.ofList)) =
      [(.line "a\uFFFD", 1), (.line "\uFFFD\uFFFD", 2), (.line "b", 3), (.finished, 3)] := by
    decide
  have lines' : linesOfText (decode (encode "a\r\né\r")) = [['a'], ['é', '\r']] := by decide
  have answers := (answers_eq_lines_of_text chunks (by decide : 0 < 4) 4).2.2.1
  rcases answers_eq_lines_of_text chunks' (by decide : 0 < 4) 3 with ⟨-, -, answers', whole⟩
  rw [lines] at answers
  rw [lines'] at answers' whole
  exact ⟨⟨chunks, answers⟩, chunks', answers', whole _ rfl⟩

end LineTally.Lines
