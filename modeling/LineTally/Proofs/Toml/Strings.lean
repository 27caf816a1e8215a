import LineTally.Proofs.Text.Digits
import LineTally.Toml.Printer
import Mathlib.Tactic.SplitIfs

/-!
# A string is read back from the form in which it is written

Whatever its characters are, the form that is chosen for a string can hold them, and the string is
read back from it.  A reader first looks for the closing quotes, so a body must not hold too many
quotes in a row; what it then makes of the body must be the string.
-/

namespace LineTally.Toml

/-! ## Finding the closing quotes -/

/-- The body holds at most so many quotes in a row, those behind a backslash apart. -/
inductive Body (quote : Char) (most : Nat) : List Char → Prop where
  | last {count : Nat} (few : count ≤ most) : Body quote most (List.replicate count quote)
  | plain {count : Nat} {char : Char} {body : List Char} (few : count ≤ most)
      (other : char ≠ quote) (alone : startsEscape quote char = false) (rest : Body quote most body) :
      Body quote most (List.replicate count quote ++ char :: body)
  | escape {count : Nat} {char : Char} {body : List Char} (few : count ≤ most)
      (double : quote = '"') (rest : Body quote most body) :
      Body quote most (List.replicate count quote ++ '\\' :: char :: body)

section Span

variable {quote char : Char} {body rest : List Char}

theorem push_some (chars : List Char) :
    push chars (some (body, rest)) = some (chars ++ body, rest) :=
  rfl

theorem push_push (chars more : List Char) (split : Option (List Char × List Char)) :
    push chars (push more split) = push (chars ++ more) split := by
  cases split with
  | none => rfl
  | some split => exact congrArg (fun body => some (body, split.2)) (List.append_assoc ..).symm

theorem spanShort_quote : spanShort quote (quote :: rest) = some ([], rest) := by
  rw [spanShort.eq_def]
  exact if_pos rfl

theorem spanShort_plain (other : char ≠ quote) (alone : startsEscape quote char = false) :
    spanShort quote (char :: rest) = push [char] (spanShort quote rest) := by
  rw [spanShort.eq_def]
  simp only [if_neg other, alone, Bool.false_eq_true, if_false]

theorem spanShort_escape :
    spanShort '"' ('\\' :: char :: rest) = push ['\\', char] (spanShort '"' rest) := by
  rw [spanShort.eq_def]
  rfl

/-- A body without quotes ends at the first quote. -/
theorem spanShort_body (holds : Body quote 0 body) (rest : List Char) :
    spanShort quote (body ++ quote :: rest) = some (body, rest) := by
  induction holds with
  | last few => rw [Nat.le_zero.mp few, List.replicate_zero, List.nil_append, spanShort_quote]
  | plain few other alone _ ih =>
      rw [Nat.le_zero.mp few, List.replicate_zero, List.nil_append, List.cons_append,
        spanShort_plain other alone, ih]
      rfl
  | escape few double _ ih =>
      subst double
      rw [Nat.le_zero.mp few, List.replicate_zero, List.nil_append, List.cons_append,
        List.cons_append, spanShort_escape, ih]
      rfl

/-- The number of quotes in a row at the front of a text. -/
theorem length_run (count : Nat) (stop : rest.head? ≠ some quote) :
    ((List.replicate count quote ++ rest).takeWhile (· = quote)).length = count := by
  have none : rest.takeWhile (· = quote) = [] := by
    cases rest with
    | nil => rfl
    | cons first rest =>
        refine List.takeWhile_cons_of_neg ?_
        simpa using stop
  rw [List.takeWhile_append_of_pos (by simp), none, List.append_nil, List.length_replicate]

/-- Fewer than three quotes in a row close nothing. -/
theorem closing?_of_few {count : Nat} (few : count < 3) (stop : rest.head? ≠ some quote) :
    closing? quote (List.replicate count quote ++ rest) = none := by
  simp only [closing?, length_run count stop, if_pos few]

/-- Three quotes in a row, with up to two before them, close the string. -/
theorem closing?_of_quotes {count : Nat} (few : count ≤ 2) (stop : rest.head? ≠ some quote) :
    closing? quote (List.replicate (count + 3) quote ++ rest) =
      some (List.replicate count quote, rest) := by
  have inside : min (count + 3 - 3) 2 = count := by omega
  simp only [closing?, length_run (count + 3) stop, if_neg (show ¬ count + 3 < 3 by omega), inside]
  rw [List.drop_left' (List.length_replicate)]

theorem spanLong_open (stays : closing? quote (char :: rest) = none)
    (alone : startsEscape quote char = false) :
    spanLong quote (char :: rest) = push [char] (spanLong quote rest) := by
  rw [spanLong.eq_def]
  simp only [stays, alone, Bool.false_eq_true, if_false]

theorem spanLong_escape :
    spanLong '"' ('\\' :: char :: rest) = push ['\\', char] (spanLong '"' rest) := by
  rw [spanLong.eq_def]
  rfl

/-- A few quotes stand for themselves. -/
theorem spanLong_quotes {count : Nat} (few : count ≤ 2) (stop : rest.head? ≠ some quote) :
    spanLong quote (List.replicate count quote ++ rest) =
      push (List.replicate count quote) (spanLong quote rest) := by
  induction count with
  | zero =>
      rw [List.replicate_zero, List.nil_append]
      cases spanLong quote rest <;> rfl
  | succ count ih =>
      have alone : startsEscape quote quote = false := by
        rw [startsEscape, Bool.and_eq_false_iff, decide_eq_false_iff_not, decide_eq_false_iff_not]
        by_cases double : quote = '"'
        · exact Or.inr (by rw [double]; decide)
        · exact Or.inl double
      have stays := closing?_of_few (show count + 1 < 3 by omega) stop
      rw [List.replicate_succ, List.cons_append] at stays ⊢
      rw [spanLong_open stays alone, ih (by omega), push_push]
      rfl

/-- A body with few quotes in a row ends at the last three quotes of a row. -/
theorem spanLong_body (holds : Body quote 2 body) (stop : rest.head? ≠ some quote) :
    spanLong quote (body ++ List.replicate 3 quote ++ rest) = some (body, rest) := by
  induction holds with
  | @last count few =>
      rw [List.replicate_append_replicate]
      have closed := closing?_of_quotes few stop
      rw [List.replicate_succ, List.cons_append] at closed ⊢
      rw [spanLong.eq_def]
      simp only [closed]
  | @plain count char body few other alone _ ih =>
      have next : (char :: (body ++ List.replicate 3 quote ++ rest)).head? ≠ some quote :=
        fun same => other (Option.some.inj same)
      have stays := closing?_of_few (show 0 < 3 by decide) next
      rw [List.append_assoc, List.append_assoc, List.cons_append, ← List.append_assoc body,
        spanLong_quotes few next, spanLong_open stays alone, ih, push_some, push_some]
      rfl
  | @escape count char body few double _ ih =>
      subst double
      have next : ('\\' :: char :: (body ++ List.replicate 3 '"' ++ rest)).head? ≠ some '"' :=
        fun same => absurd (Option.some.inj same) (by decide)
      rw [List.append_assoc, List.append_assoc, List.cons_append, List.cons_append,
        ← List.append_assoc body, spanLong_quotes few next, spanLong_escape, ih, push_some,
        push_some]
      rfl

end Span

/-! ## What is written between the quotes -/

/-- The number of quotes in a row that may stand for themselves. -/
def quotesWithin (long : Bool) : Nat :=
  if long then 2 else 0

theorem Body.cons {quote char : Char} {most : Nat} {body : List Char} (other : char ≠ quote)
    (alone : startsEscape quote char = false) (rest : Body quote most body) :
    Body quote most (char :: body) :=
  have fresh := Body.plain (Nat.zero_le most) other alone rest
  fresh

/-- An upper-case hexadecimal digit is no mark, and has the value that it was made for. -/
theorem hexDigit_toUpper {value : Nat} (small : value < 16) :
    (Text.hexDigit value).toUpper ≠ '"' ∧ (Text.hexDigit value).toUpper ≠ '\\' ∧
      (Text.hexDigit value).toUpper ≠ '\r' ∧
      Text.hexValue? (Text.hexDigit value).toUpper = some value := by
  revert value
  decide

/-- A character that needs an escape by its number is a control character. -/
theorem toNat_lt_of_needsEscape {char : Char} (needs : needsEscape char = true) :
    char.toNat < 0x20 ∨ char.toNat = 0x7f := by
  simp only [needsEscape, isPlain, Bool.and_eq_true, Bool.not_eq_true', Bool.or_eq_false_iff,
    Bool.and_eq_false_iff, decide_eq_false_iff_not] at needs
  rcases needs.1.2 with control | delete
  · exact Or.inl (Nat.lt_of_not_le control)
  · exact Or.inr (Decidable.of_not_not delete ▸ rfl)

section Write

variable {long : Bool} {char : Char} {body : List Char}

/-- A character that is not a quote can stand behind as many quotes as are allowed. -/
theorem Body.writeChar {most count : Nat} (few : count ≤ most) (other : char ≠ '"')
    (rest : Body '"' most body) :
    Body '"' most (List.replicate count '"' ++ (writeChar long char ++ body)) := by
  have alone {other : Char} (plain : other ≠ '\\') : startsEscape '"' other = false := by
    rw [startsEscape, Bool.and_eq_false_iff, decide_eq_false_iff_not, decide_eq_false_iff_not]
    exact Or.inr plain
  unfold Toml.writeChar
  split_ifs with backspace tab newline _ feed return' backslash needs
  · exact .escape few rfl rest
  · exact .escape few rfl rest
  · exact .plain few (by decide) rfl rest
  · exact .escape few rfl rest
  · exact .escape few rfl rest
  · exact .escape few rfl rest
  · exact .escape few rfl rest
  · have small := toNat_lt_of_needsEscape needs
    have high := hexDigit_toUpper (show char.toNat / 16 < 16 by omega)
    have low := hexDigit_toUpper (show char.toNat % 16 < 16 by omega)
    exact .escape few rfl <| .cons (by decide) rfl <| .cons (by decide) rfl <|
      .cons high.1 (alone high.2.1) <| .cons low.1 (alone low.2.1) rest
  · exact .plain few other (alone backslash) rest

/-- What is written between double quotes holds few enough of them. -/
theorem body_writeChars (text : List Char) {quotes : Nat} (few : quotes ≤ quotesWithin long) :
    Body '"' (quotesWithin long) (List.replicate quotes '"' ++ writeChars long quotes text) := by
  induction text generalizing quotes with
  | nil =>
      rw [writeChars, List.append_nil]
      exact .last few
  | cons char text ih =>
      rw [writeChars]
      split_ifs with quote room
      · have more : quotes + 1 ≤ quotesWithin long := by
          simp only [Bool.and_eq_true, decide_eq_true_eq] at room
          rw [quotesWithin, if_pos room.1]
          exact room.2
        have behind := ih more
        rw [List.replicate_succ', List.append_assoc] at behind
        exact behind
      · exact .escape few rfl (ih (Nat.zero_le (quotesWithin long)))
      · exact .writeChar few quote (ih (Nat.zero_le (quotesWithin long)))

/-- A text with few enough quotes in a row can stand between single quotes. -/
theorem body_of_longestRun {most : Nat} (text : List Char) {current : Nat}
    (few : longestRun '\'' current text ≤ most) :
    Body '\'' most (List.replicate current '\'' ++ text) := by
  induction text generalizing current with
  | nil =>
      rw [List.append_nil]
      exact .last few
  | cons char text ih =>
      rw [longestRun] at few
      split_ifs at few with quote
      · have behind := ih few
        rw [List.replicate_succ', List.append_assoc] at behind
        rw [quote]
        exact behind
      · rw [Nat.max_le] at few
        have behind := ih few.2
        exact .plain few.1 quote rfl behind

end Write

/-! ## What a body stands for -/

section Decode

variable {long : Bool} {char : Char} {rest : List Char}

/-- A character adds to the string what its step says. -/
theorem decodeFrom_cons {decoding next : Decoding} (chars : List Char)
    (stepped : decoding.step long char = some (chars, next)) :
    decodeFrom long decoding (char :: rest) = (decodeFrom long next rest).map (chars ++ ·) := by
  rw [decodeFrom, stepped, Option.bind_eq_bind, Option.bind_some]
  simp only
  cases decodeFrom long next rest <;> rfl

/-- A character that adds nothing yet. -/
theorem decodeFrom_silent {decoding : Decoding} (next : Decoding)
    (stepped : decoding.step long char = some ([], next)) :
    decodeFrom long decoding (char :: rest) = decodeFrom long next rest := by
  rw [decodeFrom_cons [] stepped]
  exact Option.map_id_apply

/-- A character that stands for itself. -/
theorem decodeFrom_plain (other : char ≠ '\\')
    (plain : isPlain char = true ∨ long = true ∧ char = '\n') :
    decodeFrom long .plain (char :: rest) = (decodeFrom long .plain rest).map (char :: ·) := by
  have allowed : (isPlain char || long && char = '\n') = true := by
    simpa [Bool.or_eq_true, Bool.and_eq_true] using plain
  refine decodeFrom_cons [char] ?_
  rw [Decoding.step, Decoding.stepPlain, if_neg other, if_pos allowed]

/-- A character behind a backslash. -/
theorem decodeFrom_letter {letter : Char} (meant : escaped? letter = some char) :
    decodeFrom long .plain ('\\' :: letter :: rest) =
      (decodeFrom long .plain rest).map (char :: ·) := by
  rw [decodeFrom_silent .escape rfl]
  refine decodeFrom_cons [char] ?_
  rw [Decoding.step, Decoding.stepEscape, meant]

/-- A digit of the number of a character, before the last. -/
theorem decodeFrom_digit {digits value digit : Nat} (read : Text.hexValue? char = some digit) :
    decodeFrom long (.number (digits + 1) value) (char :: rest) =
      decodeFrom long (.number digits (value * 16 + digit)) rest := by
  refine decodeFrom_silent _ ?_
  rw [Decoding.step, Decoding.stepNumber, read]
  rfl

/-- A character behind its number, the first two digits of which are zeros. -/
theorem decodeFrom_unicode {high low : Char} {highValue lowValue : Nat}
    (first : Text.hexValue? high = some highValue) (second : Text.hexValue? low = some lowValue)
    (same : highValue * 16 + lowValue = char.toNat) :
    decodeFrom long .plain ('\\' :: 'u' :: '0' :: '0' :: high :: low :: rest) =
      (decodeFrom long .plain rest).map (char :: ·) := by
  have zero : Text.hexValue? '0' = some 0 := rfl
  have valid : char.toNat.isValidChar := char.valid
  have made : character? char.toNat = some char := by
    rw [character?, if_pos valid, Char.ofNat_toNat]
  rw [decodeFrom_silent .escape rfl, decodeFrom_silent (.number 3 0) rfl,
    decodeFrom_digit zero, decodeFrom_digit zero, decodeFrom_digit first]
  refine decodeFrom_cons [char] ?_
  simp only [Decoding.step, Decoding.stepNumber, second, Option.bind_eq_bind, Option.bind_some,
    Nat.zero_mul, Nat.zero_add, same, made]
  rfl

/-- A character as it is written between double quotes stands for itself. -/
theorem decodeFrom_writeChar :
    decodeFrom long .plain (writeChar long char ++ rest) =
      (decodeFrom long .plain rest).map (char :: ·) := by
  unfold writeChar
  split_ifs with backspace tab newline isLong feed return' backslash needs
  · exact decodeFrom_letter (backspace ▸ rfl)
  · exact decodeFrom_letter (tab ▸ rfl)
  · subst newline
    exact decodeFrom_plain (by decide) (Or.inr ⟨isLong, rfl⟩)
  · exact decodeFrom_letter (newline ▸ rfl)
  · exact decodeFrom_letter (feed ▸ rfl)
  · exact decodeFrom_letter (return' ▸ rfl)
  · subst backslash
    exact decodeFrom_letter rfl
  · have small := toNat_lt_of_needsEscape needs
    have high := hexDigit_toUpper (show char.toNat / 16 < 16 by omega)
    have low := hexDigit_toUpper (show char.toNat % 16 < 16 by omega)
    exact decodeFrom_unicode high.2.2.2 low.2.2.2 (by omega)
  · have plain : isPlain char = true := by
      simpa [needsEscape, newline] using needs
    exact decodeFrom_plain backslash (Or.inl plain)

/-- What is written between double quotes stands for the text. -/
theorem decodeFrom_writeChars (text : List Char) (quotes : Nat) :
    decodeFrom long .plain (writeChars long quotes text) = some text := by
  induction text generalizing quotes with
  | nil => rfl
  | cons char text ih =>
      rw [writeChars]
      split_ifs with quote room
      · rw [decodeFrom_plain (by decide) (Or.inl rfl), ih, quote]
        rfl
      · rw [decodeFrom_letter rfl, ih, quote]
        rfl
      · rw [decodeFrom_writeChar, ih]
        rfl

end Decode

/-! ## The form of a string -/

/-- The form can hold the text: there are few enough quotes in a row, the body stands for the text,
and it neither begins with a line break that would be left out nor holds a carriage return that
could be taken for a part of one. -/
structure Form.Holds (form : Form) (text : List Char) : Prop where
  quote : form.quote = '"' ∨ form.quote = '\''
  body : Body form.quote (quotesWithin form.long) (form.body text)
  decodes : decodeBody form.quote form.long (form.body text) = some text
  begins : '\n' ∉ text → (form.body text).head? ≠ some '\n'
  noReturn : '\r' ∉ form.body text

/-- No other character than a line break is written as one. -/
theorem head?_writeChars {long : Bool} {text : List Char} (none : '\n' ∉ text) :
    (writeChars long 0 text).head? ≠ some '\n' := by
  cases text with
  | nil => exact nofun
  | cons char text =>
      have other : char ≠ '\n' := fun same => none (same ▸ List.mem_cons_self)
      rw [writeChars, writeChar]
      split_ifs
      all_goals simp_all

/-- A carriage return is always written as an escape. -/
theorem return_not_mem_writeChar (long : Bool) (char : Char) : '\r' ∉ writeChar long char := by
  unfold writeChar
  split_ifs with _ _ _ _ _ return' _ needs
  · decide
  · decide
  · decide
  · decide
  · decide
  · decide
  · decide
  · have small := toNat_lt_of_needsEscape needs
    have high := hexDigit_toUpper (show char.toNat / 16 < 16 by omega)
    have low := hexDigit_toUpper (show char.toNat % 16 < 16 by omega)
    simp [high.2.2.1.symm, low.2.2.1.symm]
  · exact fun member => return' (List.mem_singleton.mp member).symm

theorem return_not_mem_writeChars (long : Bool) (quotes : Nat) (text : List Char) :
    '\r' ∉ writeChars long quotes text := by
  induction text generalizing quotes with
  | nil => exact List.not_mem_nil
  | cons char text ih =>
      rw [writeChars]
      split_ifs
      all_goals simp [ih, return_not_mem_writeChar]

/-- Between double quotes there can be any text. -/
theorem Form.holds_double (long : Bool) (text : List Char) : Form.Holds ⟨'"', long⟩ text where
  quote := Or.inl rfl
  body := body_writeChars text (Nat.zero_le (quotesWithin long))
  decodes := decodeFrom_writeChars text 0
  begins := head?_writeChars
  noReturn := return_not_mem_writeChars long 0 text

/-- Between single quotes there can be any text without control characters, and with few enough
quotes in a row. -/
theorem Form.holds_single {long : Bool} {text : List Char}
    (few : longestRun '\'' 0 text ≤ quotesWithin long) (controls : text.any needsEscape = false)
    (newline : '\n' ∈ text → long = true) : Form.Holds ⟨'\'', long⟩ text where
  quote := Or.inr rfl
  body := body_of_longestRun text few
  decodes := by
    have allowed : (text.all fun char => isPlain char || long && char = '\n') = true := by
      refine List.all_eq_true.mpr fun char member => ?_
      have noEscape := List.any_eq_false.mp controls char member
      cases plain : isPlain char with
      | true => rfl
      | false =>
          have feed : char = '\n' := by simpa [needsEscape, plain] using noEscape
          rw [newline (feed ▸ member), feed]
          rfl
    change decodeBody '\'' long text = some text
    rw [decodeBody, if_neg (by decide), if_pos allowed]
  begins none same := none (List.mem_of_head? same)
  noReturn member := List.any_eq_false.mp controls '\r' member (by decide)

/-- The form that is chosen for a text can hold it. -/
theorem Form.holds_choose (text : List Char) : (Form.choose text).Holds text := by
  unfold Form.choose
  simp only
  split_ifs with short single long longSingle
  · exact holds_double false text
  · simp only [Bool.and_eq_true, Bool.not_eq_true', decide_eq_true_eq] at single
    refine holds_single (Nat.le_of_eq single.2) single.1.1 fun newline => ?_
    rw [← List.contains_iff_mem, single.1.2] at newline
    exact newline
  · exact holds_double true text
  · simp only [Bool.and_eq_true, Bool.not_eq_true', decide_eq_true_eq] at longSingle
    exact holds_single longSingle.2 longSingle.1 fun _ => rfl
  · exact holds_double _ text

/-- No carriage return is written. -/
theorem return_not_mem_writeString (text : String) : '\r' ∉ (writeString text).toList := by
  have holds := Form.holds_choose text.toList
  have quote : '\r' ≠ (Form.choose text.toList).quote := by
    rcases holds.quote with quote | quote <;> rw [quote] <;> decide
  rw [writeString, String.toList_ofList, Form.write]
  split
  next =>
    split
    all_goals simp [holds.noReturn, quote]
  next => simp [holds.noReturn, quote]

section Read

variable {quote : Char} {text rest : List Char}

/-- A body without quotes does not begin with one. -/
theorem Body.head?_ne {body : List Char} (holds : Body quote 0 body) : body.head? ≠ some quote := by
  cases holds with
  | last few =>
      rw [Nat.le_zero.mp few]
      exact nofun
  | plain few other =>
      rw [Nat.le_zero.mp few]
      exact fun same => other (Option.some.inj same)
  | escape few double =>
      rw [Nat.le_zero.mp few, double]
      exact fun same => absurd (Option.some.inj same) (by decide)

/-- A string is not a long one unless its first two characters are quotes. -/
theorem readString_eq_readShort (stop : text.head? ≠ some quote ∨ text.tail.head? ≠ some quote) :
    readString quote text = readShort quote text := by
  unfold readString
  split
  next second third rest =>
    refine if_neg ?_
    rintro ⟨rfl, rfl⟩
    rcases stop with stop | stop <;> exact stop rfl
  next => rfl

theorem dropNewline_of_head?_ne (other : text.head? ≠ some '\n') : dropNewline text = text := by
  unfold dropNewline
  split
  · exact absurd rfl other
  · rfl

/-- The line break that is put before a body is left out, and no other. -/
theorem Form.dropNewline_start {form : Form} (holds : form.Holds text) (rest : List Char) :
    dropNewline ((if text.contains '\n' then ['\n'] else []) ++
        (form.body text ++ List.replicate 3 form.quote ++ rest)) =
      form.body text ++ List.replicate 3 form.quote ++ rest := by
  split
  next => rfl
  next absent =>
    refine dropNewline_of_head?_ne ?_
    have other := holds.begins (by simpa using absent)
    cases body : form.body text with
    | nil =>
        intro same
        have feed : form.quote = '\n' := Option.some.inj same
        rcases holds.quote with quote | quote <;> exact absurd (quote ▸ feed) (by decide)
    | cons first more =>
        rw [body] at other
        exact other

theorem Form.write_eq_cons (form : Form) (text : List Char) :
    ∃ tail, form.write text = form.quote :: tail := by
  unfold write
  split <;> exact ⟨_, rfl⟩

/-- A text is read back from a form that can hold it. -/
theorem Form.readString_write {form : Form} (holds : form.Holds text)
    (stop : rest.head? ≠ some form.quote) :
    ∃ tail, form.write text ++ rest = form.quote :: tail ∧
      readString form.quote tail = some (String.ofList text, rest) := by
  rcases form with ⟨quote, long⟩
  cases long with
  | false =>
      have span := spanShort_body holds.body rest
      have decodes : decodeBody quote false (Form.body ⟨quote, false⟩ text) = some text :=
        holds.decodes
      refine ⟨Form.body ⟨quote, false⟩ text ++ quote :: rest, by simp [write], ?_⟩
      rw [readString_eq_readShort, readShort, span]
      · simp [decodes]
      · have other := holds.body.head?_ne
        cases body : Form.body ⟨quote, false⟩ text with
        | nil => exact Or.inr stop
        | cons first more =>
            rw [body] at other
            exact Or.inl other
  | true =>
      have span := spanLong_body holds.body stop
      have decodes : decodeBody quote true (Form.body ⟨quote, true⟩ text) = some text :=
        holds.decodes
      have kept := Form.dropNewline_start holds rest
      refine ⟨quote :: quote :: ((if text.contains '\n' then ['\n'] else []) ++
          (Form.body ⟨quote, true⟩ text ++ List.replicate 3 quote ++ rest)), ?_, ?_⟩
      · simp [write, List.replicate]
      · rw [readString, if_pos ⟨rfl, rfl⟩, readLong, kept, span]
        simp [decodes]

end Read

end LineTally.Toml
