import LineTally.Proofs.Text.Digits
import LineTally.Time.Rfc3339
import Mathlib.Algebra.Ring.Nat
import Mathlib.Tactic.SplitIfs

/-!
# A time is read back from its text

Every point in time that can be represented is read back from the text that is written for it, with
its second and every decimal, in whatever year.  What one reader leaves is what the next one starts
with, so each part of the text has a lemma of its own.
-/

namespace LineTally.Time

/-! ## Padded numbers -/

section Padded

variable {width number : Nat} {rest : List Char}

theorem isDigit_of_mem_padded {char : Char} (member : char ∈ padded width number) :
    char.isDigit = true := by
  rcases List.mem_append.mp member with zero | digit
  · rw [List.eq_of_mem_replicate zero]
    rfl
  · exact Text.isDigit_of_mem_toDigits digit

@[simp] theorem ofDigits_padded (width number : Nat) :
    Text.ofDigits (padded width number) = number :=
  Text.ofDigits_replicate_append _ number

/-- A number that fits the width takes all of it. -/
theorem length_padded (positive : 0 < width) (fits : number < 10 ^ width) :
    (padded width number).length = width := by
  have short := (Nat.length_toDigits_le_iff (b := 10) (by decide) positive).mpr fits
  rw [padded, List.length_append, List.length_replicate, Nat.sub_add_cancel short]

theorem padded_eq_cons (width number : Nat) :
    ∃ first others, padded width number = first :: others ∧ first.isDigit = true := by
  cases digits : padded width number with
  | nil => exact absurd (List.append_eq_nil_iff.mp digits).2 Nat.toDigits_ne_nil
  | cons first others =>
      exact ⟨first, others, rfl, isDigit_of_mem_padded (digits ▸ List.mem_cons_self)⟩

/-- A number does not begin with a sign. -/
theorem padded_append_ne_cons {sign : Char} (mark : sign.isDigit = false) (text : List Char) :
    padded width number ++ rest ≠ sign :: text := by
  intro same
  rcases padded_eq_cons width number with ⟨first, others, digits, digit⟩
  rw [digits, List.cons_append] at same
  rw [(List.cons.inj same).1, mark] at digit
  exact Bool.false_ne_true digit

/-- No blank is a digit. -/
theorem isBlank_of_isDigit {char : Char} (digit : char.isDigit = true) :
    Text.isBlank char = false := by
  rcases Char.isDigit_iff_toNat.mp digit with ⟨low, high⟩
  have low : 48 ≤ char.toNat := low
  have high : char.toNat ≤ 57 := high
  simp only [Text.isBlank, Bool.or_eq_false_iff, Bool.and_eq_false_iff, decide_eq_false_iff_not]
  omega

/-- No blanks are left out before a number. -/
theorem trimStart_padded (width number : Nat) (rest : List Char) :
    Text.trimStart (padded width number ++ rest) = padded width number ++ rest := by
  rcases padded_eq_cons width number with ⟨first, others, digits, digit⟩
  rw [digits, List.cons_append, Text.trimStart, List.dropWhile_cons_of_neg]
  rw [isBlank_of_isDigit digit]
  exact Bool.false_ne_true

theorem readDigits_padded (stop : Text.NoDigit rest) :
    readDigits (padded width number ++ rest) = .ok (padded width number, rest) := by
  have all : ∀ char ∈ padded width number, char.isDigit = true := fun _ => isDigit_of_mem_padded
  have span := Text.takeWhile_isDigit_append all stop
  rcases padded_eq_cons width number with ⟨first, others, digits, digit⟩
  rw [digits, List.cons_append] at span ⊢
  rw [readDigits, if_pos digit, span.1, span.2]

/-- A number that fits its width is taken, and what stands behind is left. -/
theorem readUpTo_padded {most : Nat} (positive : 0 < width) (fits : number < 10 ^ width)
    (room : width ≤ most) (stop : Text.NoDigit rest) :
    readUpTo most (padded width number ++ rest) = .ok (padded width number, rest) := by
  have length : (padded width number).length ≤ most := by
    rw [length_padded positive fits]
    exact room
  simp only [readUpTo, readDigits_padded stop, bind, Except.bind, pure, Except.pure,
    List.take_of_length_le length, List.drop_of_length_le length, List.nil_append]

/-- Two digits are read back, if the number is within its bounds. -/
theorem readPair_padded {least greatest : Nat} (within : least ≤ number ∧ number ≤ greatest)
    (small : number < 100) (stop : Text.NoDigit rest) :
    readPair least greatest (padded 2 number ++ rest) = .ok (number, rest) := by
  have inside : ¬ (number < least ∨ greatest < number) := by omega
  simp only [readPair, trimStart_padded, readUpTo_padded Nat.two_pos small (Nat.le_refl 2) stop,
    bind, Except.bind, pure, Except.pure, ofDigits_padded, if_neg inside]

end Padded

/-! ## The parts of a time -/

section Parts

variable {rest : List Char}

/-- A mark that must come next is passed over. -/
theorem readLiteral_cons (mark : Char) (visible : Text.isBlank mark = false) :
    readLiteral mark (mark :: rest) = .ok rest := by
  have kept : Text.trimStart (mark :: rest) = mark :: rest :=
    List.dropWhile_cons_of_neg (by rw [visible]; exact Bool.false_ne_true)
  rw [readLiteral, kept]
  exact if_pos rfl

theorem readSeparator_cons : readSeparator ('T' :: rest) = .ok rest :=
  rfl

/-- A signed year is read back. -/
theorem readSignedYear_padded (width : Nat) (negative : Bool) {size : Nat}
    (small : size < 2 ^ 31) (stop : Text.NoDigit rest) :
    readSignedYear negative (padded width size ++ rest) =
      .ok (if negative then -(size : Int) else size, rest) := by
  have fits : ¬ size > wordLimit := by
    have limit : wordLimit = 2 ^ 63 - 1 := rfl
    omega
  have within : ¬ ((if negative then -(size : Int) else size) < -Int.ofNat (Nat.pow 2 31) ∨
      Int.ofNat (Nat.pow 2 31) ≤ (if negative then -(size : Int) else size)) := by
    have power : Int.ofNat (Nat.pow 2 31) = 2 ^ 31 := rfl
    cases negative <;> simp only [Bool.false_eq_true, if_true, if_false] <;> omega
  simp only [readSignedYear, readDigits_padded stop, bind, Except.bind, pure, Except.pure,
    ofDigits_padded, if_neg fits, if_neg within]

/-- A year is read back, with its sign if it has one. -/
theorem readYear_printYear {year : Int} (represented : firstYear ≤ year ∧ year ≤ lastYear)
    (stop : Text.NoDigit rest) : readYear (printYear year ++ rest) = .ok (year, rest) := by
  have first : firstYear = -262143 := rfl
  have last : lastYear = 262142 := rfl
  unfold printYear
  split
  next plain =>
    have small : year.toNat < 10 ^ 4 := by omega
    have back : (year.toNat : Int) = year := Int.toNat_of_nonneg plain.1
    rw [readYear, trimStart_padded]
    split
    next same => exact absurd same (padded_append_ne_cons rfl _)
    next same => exact absurd same (padded_append_ne_cons rfl _)
    next =>
      simp only [readUpTo_padded (by decide) small (Nat.le_refl 4) stop, bind, Except.bind, pure,
        Except.pure, ofDigits_padded, back]
  next signed =>
    have small : year.natAbs < 2 ^ 31 := by omega
    split
    next negative =>
      have back : -(year.natAbs : Int) = year := by omega
      have read := readSignedYear_padded 4 true small stop
      rw [if_pos rfl, back] at read
      exact read
    next positive =>
      have back : (year.natAbs : Int) = year := by omega
      have read := readSignedYear_padded 4 false small stop
      rw [if_neg Bool.false_ne_true, back] at read
      exact read

/-- Decimals are read back as so many billionths. -/
theorem readFraction_padded {width decimals : Nat} (positive : 0 < width) (room : width ≤ 9)
    (fits : decimals < 10 ^ width) (stop : Text.NoDigit rest) :
    readFraction ('.' :: padded width decimals ++ rest) =
      .ok (decimals * Nat.pow 10 (9 - width), rest) := by
  simp only [List.cons_append, readFraction, readUpTo_padded positive fits room stop, bind,
    Except.bind, pure, Except.pure, ofDigits_padded, length_padded positive fits, stop.dropWhile]

/-- A fraction begins with its point, if there is one. -/
theorem noDigit_printFraction {last : Char} (mark : last.isDigit = false) (nano : Nat) :
    Text.NoDigit (printFraction nano ++ [last]) := by
  unfold printFraction
  split_ifs
  · exact .cons mark _
  all_goals exact .cons rfl _

/-- A fraction is read back to the billionth of a second. -/
theorem readFraction_printFraction {nano : Nat} (small : nano < 1000000000)
    (stop : Text.NoDigit rest) (whole : '.' ∉ rest.head?) :
    readFraction (printFraction nano ++ rest) = .ok (nano, rest) := by
  unfold printFraction
  split_ifs with none thousandths millionths
  · rw [none, List.nil_append, readFraction]
    rintro text rfl
    exact whole rfl
  · have back : nano / 1000000 * Nat.pow 10 (9 - 3) = nano :=
      Nat.div_mul_cancel (Nat.dvd_of_mod_eq_zero thousandths)
    rw [readFraction_padded (by decide) (by decide) (by omega) stop, back]
  · have back : nano / 1000 * Nat.pow 10 (9 - 6) = nano :=
      Nat.div_mul_cancel (Nat.dvd_of_mod_eq_zero millionths)
    rw [readFraction_padded (by decide) (by decide) (by omega) stop, back]
  · have back : nano * Nat.pow 10 (9 - 9) = nano := Nat.mul_one nano
    rw [readFraction_padded (by decide) (by decide) small stop, back]

end Parts

/-! ## Whole times -/

theorem daysInMonth_le (year : Int) (month : Nat) : daysInMonth year month ≤ 31 := by
  unfold daysInMonth
  split
  · split <;> decide
  all_goals decide

/-- A point in time as its text says it, in UTC. -/
def Written.ofTimestamp (time : Timestamp) : Written :=
  { time with offset := 0 }

/-- What a text says is read back from it. -/
theorem read_print (time : Timestamp) :
    Written.read (print time) = .ok (.ofTimestamp time, []) := by
  rcases time.date_valid with ⟨early, late, someMonth, lastMonth, someDay, lastDay⟩
  have lastDay := Nat.le_trans lastDay (daysInMonth_le time.date.year time.date.month)
  have hour := time.hour_lt
  have minute := time.minute_lt
  have second := time.second_le
  simp only [Written.read, print, List.append_assoc, List.cons_append, bind, Except.bind, pure,
    Except.pure]
  rw [readYear_printYear ⟨early, late⟩ (.cons rfl _)]
  simp only [readLiteral_cons '-' rfl]
  rw [readPair_padded ⟨someMonth, lastMonth⟩ (by omega) (.cons rfl _)]
  simp only [readLiteral_cons '-' rfl]
  rw [readPair_padded ⟨someDay, lastDay⟩ (by omega) (.cons rfl _)]
  simp only [readSeparator_cons]
  rw [readPair_padded ⟨Nat.zero_le _, by omega⟩ (by omega) (.cons rfl _)]
  simp only [readLiteral_cons ':' rfl]
  rw [readPair_padded ⟨Nat.zero_le _, by omega⟩ (by omega) (.cons rfl _)]
  simp only [readLiteral_cons ':' rfl]
  rw [readPair_padded ⟨Nat.zero_le _, second⟩ (by omega) (noDigit_printFraction rfl _)]
  simp only
  rw [readFraction_printFraction time.nano_lt (.cons rfl []) (by decide)]
  rfl

/-- In UTC there is no offset to take off. -/
theorem toTimestamp_utc {date : Date} {hour minute second nano : Nat} {time : Timestamp}
    (valid : date.IsValid) (hour_lt : hour < 24) (minute_lt : minute < 60)
    (made : Timestamp.ofParts? date hour minute second nano = some time) :
    Written.toTimestamp ⟨date, hour, minute, second, nano, 0⟩ = .ok time := by
  have ofDay : (((hour : Int) * 60 + minute - 0) % minutesPerDay).toNat = hour * 60 + minute := by
    simp only [minutesPerDay]
    omega
  have hours : (hour * 60 + minute) / 60 = hour := by omega
  have minutes : (hour * 60 + minute) % 60 = minute := by omega
  have notBefore : ¬ ((hour : Int) * 60 + minute - 0 < 0) := by omega
  have notAfter : ¬ (minutesPerDay ≤ (hour : Int) * 60 + minute - 0) := by
    simp only [minutesPerDay]
    omega
  have noOffset : ¬ ((0 : Int) ≤ -minutesPerDay ∨ minutesPerDay ≤ 0) := by decide
  simp only [Written.toTimestamp, if_neg (not_not_intro valid), if_neg noOffset, if_neg notBefore,
    if_neg notAfter, ofDay, hours, minutes, made]

/-- The parts of a point in time in UTC make up that point. -/
theorem toTimestamp_ofTimestamp (time : Timestamp) :
    (Written.ofTimestamp time).toTimestamp = .ok time :=
  toTimestamp_utc time.date_valid time.hour_lt time.minute_lt (Timestamp.ofParts?_parts time)

/-- Every point in time is read back from its text. -/
theorem parse_render (time : Timestamp) : parse (render time) = .ok time := by
  simp only [parse, render, String.toList_ofList, read_print, bind, Except.bind]
  exact toTimestamp_ofTimestamp time

end LineTally.Time
