import LineTally.Proofs.Toml.Strings
import LineTally.Toml.Parser
import Mathlib.Algebra.Ring.Nat

/-!
# A written table is read back

A table is written as a header and a line for each entry, with names that need no quotes.  The lines
are read back one by one, whatever comes behind them: each reader stops where the next one begins.
-/

namespace LineTally.Toml

/-! ## Numbers -/

section Digits

variable {digits rest : List Char}

/-- Decimal digits and nothing else. -/
def AllDigits (chars : List Char) : Prop :=
  ∀ char ∈ chars, char.isDigit = true

theorem AllDigits.not_mem (all : AllDigits digits) (mark : Char) (other : mark.isDigit = false) :
    mark ∉ digits := by
  intro member
  rw [all mark member] at other
  cases other

theorem AllDigits.ne_cons {mark : Char} (all : AllDigits digits) (other : mark.isDigit = false)
    (text : List Char) : digits ≠ mark :: text :=
  fun same => all.not_mem mark other (same ▸ List.mem_cons_self)

theorem isTokenChar_of_isDigit {char : Char} (digit : char.isDigit = true) :
    isTokenChar char = true := by
  simp [isTokenChar, isBare, Char.isAlphanum, digit]

/-- Digits alone are neither a date nor a time. -/
theorem AllDigits.not_isMoment (all : AllDigits digits) :
    isDate digits = false ∧ isMoment digits = false := by
  have noDate : readDate digits = none := by
    unfold readDate
    split
    next => exact absurd (by simp) (all.not_mem '-' rfl)
    next => rfl
  have noTime : readTime digits = none := by
    unfold readTime
    split
    next => exact absurd (by simp) (all.not_mem ':' rfl)
    next => rfl
  rw [isDate, isMoment, noDate]
  simp [noTime]

/-- Digits without underscores stay as they are. -/
theorem AllDigits.ungroup? (all : AllDigits digits) (some : digits ≠ []) :
    Toml.ungroup? Char.isDigit digits = Option.some digits := by
  induction digits with
  | nil => exact absurd rfl some
  | cons first others ih =>
      have digit := all first List.mem_cons_self
      cases others with
      | nil => rw [Toml.ungroup?, if_pos digit]
      | cons second others =>
          have later : AllDigits (second :: others) := fun char member =>
            all char (List.mem_cons_of_mem first member)
          rw [Toml.ungroup?, if_pos digit, ih later (List.cons_ne_nil _ _)]
          · rfl
          · exact nofun
          · exact fun text => later.ne_cons rfl text

end Digits

/-! ## Values -/

/-- The value is read back from what is written for it at the end of a line. -/
def ReadsBack (written : List Char) (value : Toml) : Prop :=
  (∀ char ∈ written.head?, isBlank char = false) ∧
    ∀ (parts depth : Nat) (rest : List Char),
      readValue (parts + 1) depth (written ++ '\n' :: rest) = some (value, '\n' :: rest)

section Number

variable {number : Nat}

theorem allDigits_toDigits (number : Nat) : AllDigits (Nat.toDigits 10 number) :=
  fun _ member => Text.isDigit_of_mem_toDigits member

/-- The digits of a number have no zeros before them. -/
theorem decimal?_toDigits (number : Nat) :
    decimal? (Nat.toDigits 10 number) = some (Nat.toDigits 10 number) := by
  have noZeros : ¬ ((Nat.toDigits 10 number).length > 1 ∧
      (Nat.toDigits 10 number).head? = some '0') := by
    rintro ⟨long, zero⟩
    rw [Text.eq_zero_of_head?_toDigits zero, Nat.toDigits_zero] at long
    exact absurd long (by decide)
  rw [decimal?, (allDigits_toDigits number).ungroup? Nat.toDigits_ne_nil]
  exact if_neg noZeros

/-- The digits of a number that fits 64 bits with a sign are read as that number. -/
theorem integer?_toDigits (fits : number < 2 ^ 63) :
    integer? (Nat.toDigits 10 number) = some (number : Int) := by
  have all := allDigits_toDigits number
  have unsigned : splitSign (Nat.toDigits 10 number) = (false, Nat.toDigits 10 number) := by
    unfold splitSign
    split
    next same => exact absurd same (all.ne_cons rfl _)
    next same => exact absurd same (all.ne_cons rfl _)
    next => rfl
  have fitting : word? number = some (number : Int) := by
    have above : -Int.ofNat (Nat.pow 2 63) ≤ (number : Int) :=
      Int.le_trans (Int.neg_nonpos_of_nonneg (Int.natCast_nonneg _)) (Int.natCast_nonneg number)
    rw [word?, if_pos ⟨above, Int.ofNat_lt.mpr fits⟩]
  have mark {char : Char} (other : char.isDigit = false) (token : List Char) :
      Nat.toDigits 10 number ≠ '0' :: char :: token := fun same =>
    all.not_mem char other (same ▸ List.mem_cons_of_mem _ List.mem_cons_self)
  rw [integer?, unsigned]
  · simp only [decimal?_toDigits]
    rw [Option.bind_eq_bind, Option.bind_some, Text.ofDigits_toDigits, if_neg Bool.false_ne_true]
    exact fitting
  · exact fun token => mark rfl token
  · exact fun token => mark rfl token
  · exact fun token => mark rfl token

theorem scalar?_toDigits (fits : number < 2 ^ 63) :
    scalar? (Nat.toDigits 10 number) = some (.integer number) := by
  have all := allDigits_toDigits number
  rw [scalar?, if_neg (all.ne_cons rfl _), if_neg (all.ne_cons rfl _), all.not_isMoment.2,
    integer?_toDigits fits]
  rfl

end Number

/-- A token ends at the end of a line. -/
theorem readScalar_line {token : List Char} {value : Toml}
    (all : ∀ char ∈ token, isTokenChar char = true) (noDate : isDate token = false)
    (meant : scalar? token = some value) (rest : List Char) :
    readScalar (token ++ '\n' :: rest) = some (value, '\n' :: rest) := by
  have stop : isTokenChar '\n' = false := by decide
  have taken : (token ++ '\n' :: rest).takeWhile isTokenChar = token := by
    rw [List.takeWhile_append_of_pos all, List.takeWhile_cons_of_neg (by rw [stop]; exact nofun),
      List.append_nil]
  have left : (token ++ '\n' :: rest).dropWhile isTokenChar = '\n' :: rest := by
    rw [List.dropWhile_append_of_pos all, List.dropWhile_cons_of_neg (by rw [stop]; exact nofun)]
  simp [readScalar, taken, left, noDate, meant]

/-- A value that begins with no bracket and no quote is a token. -/
theorem readValue_token {first : Char} (begins : isTokenChar first = true) (parts depth : Nat)
    (text : List Char) :
    readValue (parts + 1) depth (first :: text) = readScalar (first :: text) := by
  have other {mark : Char} (mark_not : isTokenChar mark = false) (rest : List Char) :
      first :: text ≠ mark :: rest := by
    intro same
    rw [(List.cons.inj same).1, mark_not] at begins
    cases begins
  rw [readValue]
  · exact fun rest => other (by decide) rest
  · exact fun rest => other (by decide) rest
  · exact fun rest _ same _ => other (by decide) rest same
  · exact fun rest _ same _ => other (by decide) rest same

/-- No blank belongs to a token. -/
theorem isBlank_of_isTokenChar {char : Char} (token : isTokenChar char = true) :
    isBlank char = false := by
  rw [isBlank, Bool.or_eq_false_iff, decide_eq_false_iff_not, decide_eq_false_iff_not]
  constructor <;>
    · rintro rfl
      exact absurd token (by decide)

/-- A token is read back if it means something. -/
theorem readsBack_token {token : List Char} {value : Toml} (some : token ≠ [])
    (all : ∀ char ∈ token, isTokenChar char = true) (noDate : isDate token = false)
    (meant : scalar? token = Option.some value) : ReadsBack token value := by
  cases token with
  | nil => exact absurd rfl some
  | cons first token =>
      have begins := all first List.mem_cons_self
      refine ⟨fun char same => ?_, fun parts depth rest => ?_⟩
      · exact isBlank_of_isTokenChar (all char (List.mem_of_head? same))
      · rw [List.cons_append, readValue_token begins, ← List.cons_append,
          readScalar_line all noDate meant]

theorem readsBack_number {number : Nat} (fits : number < 2 ^ 63) :
    ReadsBack (Nat.toDigits 10 number) (.integer number) :=
  have all := allDigits_toDigits number
  readsBack_token Nat.toDigits_ne_nil (fun char member => isTokenChar_of_isDigit (all char member))
    all.not_isMoment.1 (scalar?_toDigits fits)

theorem readsBack_bool (value : Bool) : ReadsBack (writeBool value).toList (.boolean value) := by
  cases value
  · exact readsBack_token (by decide) (List.all_eq_true.mp rfl) (by decide) rfl
  · exact readsBack_token (by decide) (List.all_eq_true.mp rfl) (by decide) rfl

theorem return_not_mem_writeBool (value : Bool) : '\r' ∉ (writeBool value).toList := by
  cases value <;> decide

theorem readsBack_string (text : String) : ReadsBack (writeString text).toList (.string text) := by
  have holds := Form.holds_choose text.toList
  have stop (rest : List Char) : ('\n' :: rest).head? ≠ some (Form.choose text.toList).quote := by
    intro same
    rcases holds.quote with quote | quote <;>
      exact absurd (Option.some.inj (same.trans (congrArg some quote))) (by decide)
  rw [writeString, String.toList_ofList]
  refine ⟨fun char same => ?_, fun parts depth rest => ?_⟩
  · rcases (Form.choose text.toList).write_eq_cons text.toList with ⟨tail, written⟩
    rw [written] at same
    cases Option.some.inj same
    rcases holds.quote with quote | quote <;> rw [quote] <;> decide
  · rcases Form.readString_write holds (stop rest) with ⟨tail, written, read⟩
    rw [written]
    rcases holds.quote with quote | quote
    · rw [quote] at read ⊢
      rw [readValue, read, String.ofList_toList]
      rfl
    · rw [quote] at read ⊢
      rw [readValue, read, String.ofList_toList]
      rfl

/-! ## Names -/

/-- The name needs no quotes. -/
def Bare (name : List Char) : Prop :=
  name ≠ [] ∧ ∀ char ∈ name, isBare char = true

instance (name : List Char) : Decidable (Bare name) :=
  decidable_of_iff (name.isEmpty = false ∧ name.all isBare = true) (by simp [Bare])

theorem isTokenChar_of_isBare {char : Char} (bare : isBare char = true) :
    isTokenChar char = true := by
  simp [isTokenChar, bare]

theorem skipBlanks_of_head? {text : List Char}
    (visible : ∀ char ∈ text.head?, isBlank char = false) :
    skipBlanks text = text := by
  cases text with
  | nil => rfl
  | cons first rest =>
      exact List.dropWhile_cons_of_neg (by rw [visible first rfl]; exact Bool.false_ne_true)

section Names

variable {name : List Char} {mark : Char} {rest : List Char}

theorem Bare.head? (bare : Bare name) :
    ∃ first others, name = first :: others ∧ isBare first = true ∧
      ∀ char ∈ others, isBare char = true := by
  cases name with
  | nil => exact absurd rfl bare.1
  | cons first others =>
      exact ⟨first, others, rfl, bare.2 first List.mem_cons_self, fun char member =>
        bare.2 char (List.mem_cons_of_mem first member)⟩

/-- A bare name is taken up to the first character that cannot belong to it. -/
theorem readName_bare (bare : Bare name) (stop : isBare mark = false) :
    readName (name ++ mark :: rest) = some (String.ofList name, mark :: rest) := by
  rcases bare.head? with ⟨first, others, rfl, begins, later⟩
  have noQuote : (decide (first = '"') || decide (first = '\'')) = false := by
    rw [Bool.or_eq_false_iff, decide_eq_false_iff_not, decide_eq_false_iff_not]
    constructor <;>
      · rintro rfl
        exact absurd begins (by decide)
  have stop : ¬ isBare mark = true := by
    rw [stop]
    exact Bool.false_ne_true
  rw [List.cons_append, readName, noQuote, if_neg Bool.false_ne_true, if_pos begins,
    List.takeWhile_append_of_pos later, List.dropWhile_append_of_pos later,
    List.takeWhile_cons_of_neg stop, List.dropWhile_cons_of_neg stop, List.append_nil]

/-- A bare name is a key of its own unless a point comes behind it. -/
theorem readKey_bare (bare : Bare name) (stop : isBare mark = false)
    (noPoint : ∀ more, skipBlanks (mark :: rest) ≠ '.' :: more) :
    readKey (name ++ mark :: rest) =
      some (⟨[], String.ofList name⟩, skipBlanks (mark :: rest)) := by
  have kept : skipBlanks (name ++ mark :: rest) = name ++ mark :: rest := by
    rcases bare.head? with ⟨first, others, rfl, begins, -⟩
    refine skipBlanks_of_head? fun char same => ?_
    cases Option.some.inj same
    exact isBlank_of_isTokenChar (isTokenChar_of_isBare begins)
  change readPath (78 + 1) (name ++ mark :: rest) = _
  rw [readPath, kept, readName_bare bare stop, Option.bind_eq_bind, Option.bind_some]
  simp only
  rfl

end Names

/-! ## Statements -/

/-- A header is read back. -/
theorem readStatement_table {name : List Char} (bare : Bare name) (rest : List Char) :
    readStatement ('[' :: (name ++ ']' :: rest)) = some (.table ⟨[], String.ofList name⟩, rest) := by
  have key : readKey (name ++ ']' :: rest) = some (⟨[], String.ofList name⟩, ']' :: rest) :=
    readKey_bare bare (by decide) fun more same => absurd (List.cons.inj same).1 (by decide)
  have noItem : ∀ more, name ++ ']' :: rest ≠ '[' :: more := by
    rcases bare.head? with ⟨first, others, rfl, begins, -⟩
    rintro more same
    rw [List.cons_append] at same
    rw [(List.cons.inj same).1] at begins
    exact absurd begins (by decide)
  rw [readStatement, readHeader, key]
  · rfl
  · exact noItem

/-- An entry is read back. -/
theorem readStatement_entry {name written : List Char} {value : Toml} (bare : Bare name)
    (back : ReadsBack written value) (rest : List Char) :
    readStatement (name ++ ' ' :: '=' :: ' ' :: (written ++ '\n' :: rest)) =
      some (.entry ⟨[], String.ofList name⟩ value, '\n' :: rest) := by
  have key : readKey (name ++ ' ' :: '=' :: ' ' :: (written ++ '\n' :: rest)) =
      some (⟨[], String.ofList name⟩, '=' :: ' ' :: (written ++ '\n' :: rest)) :=
    readKey_bare bare (by decide) fun more same => absurd (List.cons.inj same).1 (by decide)
  have blank : skipBlanks (' ' :: (written ++ '\n' :: rest)) = written ++ '\n' :: rest := by
    change skipBlanks (written ++ '\n' :: rest) = written ++ '\n' :: rest
    refine skipBlanks_of_head? fun char same => ?_
    cases written with
    | nil => exact Option.some.inj same ▸ rfl
    | cons first more => exact back.1 char same
  have noHeader : ∀ more, name ++ ' ' :: '=' :: ' ' :: (written ++ '\n' :: rest) ≠ '[' :: more := by
    rcases bare.head? with ⟨first, others, rfl, begins, -⟩
    rintro more same
    rw [List.cons_append] at same
    rw [(List.cons.inj same).1] at begins
    exact absurd begins (by decide)
  rw [readStatement, key, Option.bind_eq_bind, Option.bind_some]
  · simp only [blank, back.2 _ nestingLimit rest]
    rfl
  · exact noHeader

/-- The text holds these statements. -/
def Holds (text : List Char) (statements : List Statement) : Prop :=
  ∀ lines, text.length < lines → readStatements lines text = some statements

theorem holds_nil : Holds [] [] := by
  intro lines room
  cases lines with
  | zero => exact absurd room (Nat.not_lt_zero _)
  | succ lines => rfl

/-- An empty line says nothing. -/
theorem Holds.newline {text : List Char} {statements : List Statement}
    (holds : Holds text statements) : Holds ('\n' :: text) statements := by
  intro lines room
  cases lines with
  | zero => exact absurd room (Nat.not_lt_zero _)
  | succ lines =>
      have same : readStatements (lines + 1) ('\n' :: text) = readStatements (lines + 1) text := by
        rw [readStatements, readStatements]
        rfl
      rw [same]
      exact holds _ (Nat.lt_of_succ_lt room)

/-- A line is read before those behind it. -/
theorem Holds.line {text : List Char} {statement : Statement} {statements : List Statement}
    (first : Char) (line : List Char) (visible : first ≠ '\n' ∧ first ≠ '#' ∧ isBlank first = false)
    (read : readStatement (first :: (line ++ '\n' :: text)) = some (statement, '\n' :: text))
    (holds : Holds text statements) :
    Holds (first :: (line ++ '\n' :: text)) (statement :: statements) := by
  intro lines room
  cases lines with
  | zero => exact absurd room (Nat.not_lt_zero _)
  | succ lines =>
      have kept : skipLayout false (first :: (line ++ '\n' :: text)) =
          first :: (line ++ '\n' :: text) := by
        simp [skipLayout, visible]
      have later := holds lines (by
        simp only [List.length_cons, List.length_append] at room
        omega)
      rw [readStatements, kept]
      simp only [read, Option.bind_eq_bind, Option.bind_some]
      have ended : readLineEnd ('\n' :: text) = some text := rfl
      simp only [ended, later, Option.bind_some]
      rfl

theorem Bare.visible {first : Char} (bare : isBare first = true) :
    first ≠ '\n' ∧ first ≠ '#' ∧ isBlank first = false := by
  refine ⟨?_, ?_, isBlank_of_isTokenChar (isTokenChar_of_isBare bare)⟩ <;>
    · rintro rfl
      exact absurd bare (by decide)

/-- The line of an entry is read before those behind it. -/
theorem Holds.entry {name written text : List Char} {value : Toml} {statements : List Statement}
    (bare : Bare name) (back : ReadsBack written value) (holds : Holds text statements) :
    Holds (name ++ ' ' :: '=' :: ' ' :: (written ++ '\n' :: text))
      (.entry ⟨[], String.ofList name⟩ value :: statements) := by
  have read := readStatement_entry bare back text
  rcases bare.head? with ⟨first, others, rfl, begins, -⟩
  have line := Holds.line first (others ++ ' ' :: '=' :: ' ' :: written) (Bare.visible begins)
    (by simpa using read) holds
  simpa using line

/-- The line of a header is read before those behind it. -/
theorem Holds.header {name text : List Char} {statements : List Statement} (bare : Bare name)
    (holds : Holds text statements) :
    Holds ('[' :: (name ++ ']' :: '\n' :: text))
      (.table ⟨[], String.ofList name⟩ :: statements) := by
  have read := readStatement_table bare ('\n' :: text)
  have line := Holds.line '[' (name ++ [']']) (by decide) (by simpa using read) holds
  simpa using line

/-- The lines of entries are read before those behind them. -/
theorem Holds.entries {entries : List ((String × String) × Toml)} {text : List Char}
    {statements : List Statement}
    (each : ∀ entry ∈ entries, Bare entry.1.1.toList ∧ ReadsBack entry.1.2.toList entry.2)
    (holds : Holds text statements) :
    Holds ((entries.flatMap fun entry =>
        entry.1.1.toList ++ ' ' :: '=' :: ' ' :: (entry.1.2.toList ++ ['\n'])) ++ text)
      (entries.map (fun entry => .entry ⟨[], entry.1.1⟩ entry.2) ++ statements) := by
  induction entries with
  | nil => exact holds
  | cons entry entries ih =>
      have first := each entry List.mem_cons_self
      have later := ih fun other member => each other (List.mem_cons_of_mem entry member)
      have line := Holds.entry first.1 first.2 later
      simpa using line

/-- The characters of a table. -/
theorem toList_writeTable (name : String) (entries : List (String × String)) :
    (Toml.writeTable name entries).toList =
      '[' :: (name.toList ++ ']' :: '\n' :: entries.flatMap fun entry =>
        entry.1.toList ++ ' ' :: '=' :: ' ' :: (entry.2.toList ++ ['\n'])) := by
  simp only [Toml.writeTable, String.toList_append, String.toList_join, List.flatMap_map,
    List.append_assoc]
  rfl

/-- A table is read back, whatever is written behind it. -/
theorem Holds.writeTable (name : String) (entries : List ((String × String) × Toml))
    {text : List Char} {statements : List Statement} (bare : Bare name.toList)
    (each : ∀ entry ∈ entries, Bare entry.1.1.toList ∧ ReadsBack entry.1.2.toList entry.2)
    (holds : Holds text statements) :
    Holds ((Toml.writeTable name (entries.map (·.1))).toList ++ text)
      (.table ⟨[], name⟩ :: entries.map (fun entry => .entry ⟨[], entry.1.1⟩ entry.2)
        ++ statements) := by
  have header := Holds.header bare (Holds.entries each holds)
  rw [toList_writeTable, List.flatMap_map]
  simpa using header

/-! ## Whole documents -/

/-- Nothing that is written in a table could be taken for a part of another line break. -/
theorem return_not_mem_writeTable {name : String} {entries : List (String × String)}
    (bare : Bare name.toList)
    (each : ∀ entry ∈ entries, Bare entry.1.toList ∧ '\r' ∉ entry.2.toList) :
    '\r' ∉ (Toml.writeTable name entries).toList := by
  have noReturn {name : List Char} (bare : Bare name) : '\r' ∉ name := fun member =>
    absurd (bare.2 '\r' member) (by decide)
  have lines : '\r' ∉ entries.flatMap fun entry =>
      entry.1.toList ++ ' ' :: '=' :: ' ' :: (entry.2.toList ++ ['\n']) := by
    intro member
    rcases List.mem_flatMap.mp member with ⟨entry, among, member⟩
    have name := noReturn (each entry among).1
    have value := (each entry among).2
    simp [name, value] at member
  rw [toList_writeTable]
  simp [noReturn bare, lines]

/-- Where no carriage return stands before a line break, there is none to drop. -/
theorem unifyNewlines_of_not_mem {text : List Char} (noReturn : '\r' ∉ text) :
    unifyNewlines text = text := by
  induction text with
  | nil => rfl
  | cons first rest ih =>
      rw [List.mem_cons, not_or] at noReturn
      rw [unifyNewlines, ih noReturn.2]
      exact fun more same _ => noReturn.1 same.symm

/-- A document is the table that its statements make up. -/
theorem Holds.parse {text : String} {statements : List Statement} (noReturn : '\r' ∉ text.toList)
    (noMark : text.toList.head? ≠ some '\ufeff') (holds : Holds text.toList statements) :
    Toml.parse text = ofStatements? statements := by
  have kept : dropMark text.toList = text.toList := by
    unfold dropMark
    split
    next same => exact absurd (congrArg List.head? same) noMark
    next => rfl
  have read := holds (text.toList.length + 1) (Nat.lt_succ_self _)
  simp only [Toml.parse, unifyNewlines_of_not_mem noReturn, kept, read, Option.bind_eq_bind,
    Option.bind_some]

end LineTally.Toml
