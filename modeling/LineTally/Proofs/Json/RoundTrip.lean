import LineTally.Json.Parser
import LineTally.Json.Printer
import LineTally.Proofs.Text.Digits
import Mathlib.Algebra.Ring.Int.Defs
import Mathlib.Tactic.SplitIfs

/-!
# What is written as JSON can be read again

A value whose numbers are whole and fit 64 bits is read back from its text, whatever its strings
hold.  The lemmas follow the text from left to right: what a reader finds at the front of a printed
part is that part, and it leaves what stands behind.  A reader of values needs no more depth than
its text has characters.
-/

namespace LineTally.Json

/-! ## Strings -/

/-- A control character is the one whose code has these two hexadecimal digits. -/
theorem hexUnit?_hexDigits {char : Char} (control : char.toNat < 0x20) :
    hexUnit? '0' '0' (Text.hexDigit (char.toNat / 16)) (Text.hexDigit (char.toNat % 16)) =
      some char.toNat := by
  have zero : Text.hexValue? '0' = some 0 := rfl
  rw [hexUnit?, zero, Text.hexValue?_hexDigit (by omega), Text.hexValue?_hexDigit (by omega)]
  simp only [Option.bind_eq_bind, Option.bind_some]
  exact congrArg some (by omega)

/-- A character that is escaped by its code is read back, whatever comes behind. -/
theorem readString_unicode {a b c d : Char} {char : Char}
    (unit : hexUnit? a b c d = some char.toNat) (control : char.toNat < 0x20) (rest : List Char) :
    readString ('\\' :: 'u' :: a :: b :: c :: d :: rest) =
      (readString rest).map fun read => (char :: read.1, read.2) := by
  have whole : ¬ (0xD800 ≤ char.toNat ∧ char.toNat < 0xE000) := by omega
  by_cases pair : ∃ e f g h later, rest = '\\' :: 'u' :: e :: f :: g :: h :: later
  · rcases pair with ⟨e, f, g, h, later, rfl⟩
    rw [readString, unit, Option.bind_eq_bind, Option.bind_some, if_neg whole, Char.ofNat_toNat]
    cases readString ('\\' :: 'u' :: e :: f :: g :: h :: later) <;> rfl
  · have alone : ∀ e f g h later, rest = '\\' :: 'u' :: e :: f :: g :: h :: later → False :=
      fun e f g h later same => pair ⟨e, f, g, h, later, same⟩
    rw [readString, unit, Option.bind_eq_bind, Option.bind_some, if_neg whole, Char.ofNat_toNat]
    · cases readString rest <;> rfl
    · exact alone

/-- A character that is escaped by a letter is read back. -/
theorem readString_letter {letter char : Char} (escaped : escaped? letter = some char)
    (rest : List Char) :
    readString ('\\' :: letter :: rest) =
      (readString rest).map fun read => (char :: read.1, read.2) := by
  have other : letter ≠ 'u' := by
    rintro rfl
    cases escaped
  rw [readString, escaped]
  · cases readString rest <;> rfl
  · exact fun _ _ _ _ _ _ _ _ _ same _ => other same
  · exact fun _ _ _ _ _ same _ => other same

/-- A character that needs no escape is read back. -/
theorem readString_plain {char : Char} (quote : char ≠ '"') (backslash : char ≠ '\\')
    (printable : ¬ char.toNat < 0x20) (rest : List Char) :
    readString (char :: rest) = (readString rest).map fun read => (char :: read.1, read.2) := by
  rw [readString, if_neg (not_or.mpr ⟨backslash, printable⟩)]
  · cases readString rest <;> rfl
  · exact quote
  · exact fun _ _ _ _ _ _ _ _ _ same _ => backslash same
  · exact fun _ _ _ _ _ same _ => backslash same
  · exact fun _ _ same _ => backslash same

/-- A character as it is written in a string is read back. -/
theorem readString_escapeChar (char : Char) (rest : List Char) :
    readString (escapeChar char ++ rest) =
      (readString rest).map fun read => (char :: read.1, read.2) := by
  unfold escapeChar
  split_ifs with quote backslash backspace tab newline feed return' control
  · subst quote; exact readString_letter rfl rest
  · subst backslash; exact readString_letter rfl rest
  · subst backspace; exact readString_letter rfl rest
  · subst tab; exact readString_letter rfl rest
  · subst newline; exact readString_letter rfl rest
  · subst feed; exact readString_letter rfl rest
  · subst return'; exact readString_letter rfl rest
  · exact readString_unicode (hexUnit?_hexDigits control) control rest
  · exact readString_plain quote backslash control rest

/-- A string is read back from what is written between its quotes. -/
theorem readString_escape (chars rest : List Char) :
    readString (chars.flatMap escapeChar ++ '"' :: rest) = some (chars, rest) := by
  induction chars with
  | nil => rw [List.flatMap_nil, List.nil_append, readString]
  | cons char chars ih =>
      rw [List.flatMap_cons, List.append_assoc, readString_escapeChar, ih]
      rfl

/-! ## Numbers -/

/-- The text does not go on a number. -/
def EndsNumber (text : List Char) : Prop :=
  ∀ char ∈ text.head?, char.isDigit = false ∧ char ≠ '.' ∧ char ≠ 'e' ∧ char ≠ 'E'

theorem EndsNumber.noDigit {text : List Char} (ends : EndsNumber text) : Text.NoDigit text :=
  fun char first => (ends char first).1

/-- The digits of a number are taken as its whole part, with nothing behind the point. -/
theorem readInteger_toDigits (number : Nat) {rest : List Char} (stop : Text.NoDigit rest) :
    readInteger (Nat.toDigits 10 number ++ rest) = some (Nat.toDigits 10 number, rest) := by
  rcases Text.toDigits_eq_cons number with ⟨first, others, digits, -⟩
  by_cases zero : first = '0'
  · have none : number = 0 := Text.eq_zero_of_head?_toDigits (by rw [digits, zero]; rfl)
    rw [none, Nat.toDigits_zero]
    rfl
  · have all : ∀ char ∈ Nat.toDigits 10 number, char.isDigit = true :=
      fun _ => Text.isDigit_of_mem_toDigits
    have span := Text.takeWhile_isDigit_append all stop
    rw [readInteger, spanDigits, span.1, span.2]
    · exact if_neg (by rw [digits]; exact Bool.false_ne_true)
    · intro after same
      rw [digits, List.cons_append, List.cons.injEq] at same
      exact zero same.1

theorem readFraction_of_ends {rest : List Char} (ends : EndsNumber rest) :
    readFraction rest = some ([], rest) := by
  rw [readFraction]
  rintro after rfl
  exact (ends '.' rfl).2.1 rfl

theorem readExponent_of_ends {rest : List Char} (ends : EndsNumber rest) :
    readExponent rest = some (none, rest) := by
  cases rest with
  | nil => rfl
  | cons mark rest =>
      rcases ends mark rfl with ⟨-, -, small, large⟩
      rw [readExponent, if_neg (not_or.mpr ⟨small, large⟩)]

/-- Digits behind a sign, or without one, are a whole number. -/
theorem Literal.read_toDigits (number : Nat) {rest : List Char} (ends : EndsNumber rest) :
    Literal.read (Nat.toDigits 10 number ++ rest) =
        some (⟨false, Nat.toDigits 10 number, [], none⟩, rest) ∧
      Literal.read ('-' :: Nat.toDigits 10 number ++ rest) =
        some (⟨true, Nat.toDigits 10 number, [], none⟩, rest) := by
  have integer := readInteger_toDigits number ends.noDigit
  constructor
  · rcases Text.toDigits_eq_cons number with ⟨first, others, digits, digit⟩
    have unsigned : first ≠ '-' := by
      rintro rfl
      exact absurd digit (by decide)
    rw [digits, List.cons_append] at integer ⊢
    unfold Literal.read
    split
    next negative text sign =>
      split at sign
      next same => exact absurd (List.cons.inj same).1 unsigned
      next =>
        cases sign
        simp only [Option.bind_eq_bind, integer, Option.bind_some,
          readFraction_of_ends ends, readExponent_of_ends ends]
        rfl
  · simp only [Literal.read, List.cons_append, Option.bind_eq_bind, integer, Option.bind_some,
      readFraction_of_ends ends, readExponent_of_ends ends]
    rfl

/-- The number is whole and fits 64 bits, with a sign or without one. -/
def Number.Fits : Number → Prop
  | .whole value => -(2 ^ 63) ≤ value ∧ value < 2 ^ 64
  | .real _ => False

/-- A digit or a minus sign begins a number. -/
def BeginsNumber (char : Char) : Prop :=
  char.isDigit = true ∨ char = '-'

instance (char : Char) : Decidable (BeginsNumber char) :=
  inferInstanceAs (Decidable (_ ∨ _))

theorem BeginsNumber.isBlank_eq {char : Char} (begins : BeginsNumber char) :
    isBlank char = false := by
  rw [← Bool.not_eq_true]
  intro blank
  have chars : char = ' ' ∨ char = '\t' ∨ char = '\n' ∨ char = '\r' := by
    simpa [isBlank, or_assoc] using blank
  rcases chars with rfl | rfl | rfl | rfl <;> exact absurd begins (by decide)

theorem Number.print_ofNat (size : Nat) :
    (Number.whole (Int.ofNat size)).print = Nat.toDigits 10 size :=
  String.toList_ofList

theorem Number.print_negSucc (size : Nat) :
    (Number.whole (Int.negSucc size)).print = '-' :: Nat.toDigits 10 (size + 1) := by
  have digits : (Nat.repr (size + 1)).toList = Nat.toDigits 10 (size + 1) := String.toList_ofList
  have sign : (Number.whole (Int.negSucc size)).print = ("-" ++ Nat.repr (size + 1)).toList := rfl
  rw [sign, String.toList_append, digits]
  rfl

theorem Number.print_eq_cons {number : Number} (fits : number.Fits) :
    ∃ first rest, number.print = first :: rest ∧ BeginsNumber first := by
  cases number with
  | real value => exact fits.elim
  | whole value =>
      cases value with
      | ofNat size =>
          rcases Text.toDigits_eq_cons size with ⟨first, rest, digits, digit⟩
          exact ⟨first, rest, print_ofNat size ▸ digits, Or.inl digit⟩
      | negSucc size => exact ⟨'-', _, print_negSucc size, Or.inr rfl⟩

/-- A number is read back, with what stands behind it. -/
theorem Number.read_print {number : Number} (fits : number.Fits) {rest : List Char}
    (ends : EndsNumber rest) : Number.read (number.print ++ rest) = some (number, rest) := by
  cases number with
  | real value => exact fits.elim
  | whole value =>
      cases value with
      | ofNat size =>
          have small : size < Nat.pow 2 64 := Int.ofNat_lt.mp fits.2
          rw [print_ofNat, Number.read, (Literal.read_toDigits size ends).1]
          simp [Literal.value?, small]
      | negSucc size =>
          have small : size + 1 ≤ Nat.pow 2 63 := by
            have least := fits.1
            change size + 1 ≤ 2 ^ 63
            omega
          rw [print_negSucc, Number.read, (Literal.read_toDigits (size + 1) ends).2]
          simp [Literal.value?, small, Int.negSucc_eq]

/-! ## Values -/

/-- All numbers of the value are whole and fit 64 bits. -/
inductive Plain : Json → Prop where
  | null : Plain .null
  | bool (value : Bool) : Plain (.bool value)
  | number {value : Number} (fits : value.Fits) : Plain (.number value)
  | string (value : String) : Plain (.string value)
  | array {items : List Json} (each : ∀ item ∈ items, Plain item) : Plain (.array items)
  | object {members : List (String × Json)} (each : ∀ member ∈ members, Plain member.2) :
      Plain (.object members)

@[simp] theorem skipBlanks_newline (level : Nat) (text : List Char) :
    skipBlanks (newline level ++ text) = skipBlanks text := by
  have blanks : ∀ char ∈ newline level, isBlank char = true := by
    intro char member
    rcases List.mem_cons.mp member with rfl | member
    · rfl
    · rw [List.eq_of_mem_replicate member]
      rfl
  rw [skipBlanks, List.dropWhile_append_of_pos blanks]
  rfl

@[simp] theorem skipBlanks_cons {first : Char} (mark : isBlank first = false) (rest : List Char) :
    skipBlanks (first :: rest) = first :: rest :=
  List.dropWhile_cons_of_neg (by rw [mark]; exact Bool.false_ne_true)

theorem readValue_newline (depth level : Nat) (text : List Char) :
    readValue depth (newline level ++ text) = readValue depth text := by
  cases depth with
  | zero => rw [readValue, readValue]
  | succ depth => rw [readValue, readValue, skipBlanks_newline]

theorem readItems_newline (depth level : Nat) (text : List Char) :
    readItems depth (newline level ++ text) = readItems depth text := by
  cases depth with
  | zero => rw [readItems, readItems]
  | succ depth => rw [readItems, readItems, readValue_newline]

theorem readMembers_newline (depth level : Nat) (text : List Char) :
    readMembers depth (newline level ++ text) = readMembers depth text := by
  cases depth with
  | zero => rw [readMembers, readMembers]
  | succ depth => rw [readMembers, readMembers, skipBlanks_newline]

theorem readValue_number {first : Char} (begins : BeginsNumber first) (depth : Nat)
    (rest : List Char) :
    readValue (depth + 1) (first :: rest) =
      (Number.read (first :: rest)).map fun read => (.number read.1, read.2) := by
  rw [readValue, skipBlanks_cons begins.isBlank_eq]
  -- Every other kind of value begins with a mark of its own.
  split
  all_goals rename_i same
  case h_7 => rfl
  all_goals
    rcases List.cons.inj same with ⟨rfl, -⟩
    exact absurd begins (by decide)

/-- The value is read back from its text, at any level of indentation, if nothing that stands behind
could go on a number. -/
def ReadsBack (value : Json) : Prop :=
  ∀ (level depth : Nat) (rest : List Char), (print level value).length ≤ depth →
    EndsNumber rest → readValue depth (print level value ++ rest) = some (value, rest)

theorem endsNumber_newline (level : Nat) (text : List Char) :
    EndsNumber (newline level ++ text) := by
  rintro char first
  cases Option.some.inj first
  decide

theorem endsNumber_comma (text : List Char) : EndsNumber (',' :: text) := by
  rintro char first
  cases Option.some.inj first
  decide

/-- The text of a value begins with a mark, which does not close a list. -/
theorem Plain.print_eq_cons {value : Json} (plain : Plain value) (level : Nat) :
    ∃ first rest, print level value = first :: rest ∧ isBlank first = false ∧ first ≠ ']' := by
  cases plain with
  | null => exact ⟨'n', _, rfl, rfl, by decide⟩
  | bool value => cases value <;> exact ⟨_, _, rfl, rfl, by decide⟩
  | string value => exact ⟨'"', _, rfl, rfl, by decide⟩
  | @array items => cases items <;> exact ⟨'[', _, rfl, rfl, by decide⟩
  | @object members => cases members <;> exact ⟨'\x7b', _, rfl, rfl, by decide⟩
  | number fits =>
      rcases Number.print_eq_cons fits with ⟨first, rest, written, begins⟩
      refine ⟨first, rest, written, begins.isBlank_eq, ?_⟩
      rintro rfl
      exact absurd begins (by decide)

section Items

variable {level depth : Nat} {rest : List Char}

/-- The items of a list are read back. -/
theorem readItems_print {item : Json} {items : List Json}
    (each : ∀ other ∈ item :: items, ReadsBack other)
    (room : (print level item ++ printItems level items).length < depth) (close : Nat)
    (rest : List Char) :
    readItems depth (print level item ++ printItems level items ++ newline close ++ ']' :: rest) =
      some (item :: items, rest) := by
  induction items generalizing item depth with
  | nil =>
      cases depth with
      | zero => exact absurd room (Nat.not_lt_zero _)
      | succ depth =>
          rw [List.length_append] at room
          rw [readItems, printItems, List.append_nil, List.append_assoc,
            each item List.mem_cons_self level depth _ (by omega) (endsNumber_newline close _)]
          simp [isBlank]
  | cons next items ih =>
      cases depth with
      | zero => exact absurd room (Nat.not_lt_zero _)
      | succ depth =>
          simp only [printItems, newline, List.length_append, List.length_cons] at room
          have first := each item List.mem_cons_self level depth
            (printItems level (next :: items) ++ newline close ++ ']' :: rest) (by omega)
            (endsNumber_comma _)
          have others := ih (fun other member => each other (List.mem_cons_of_mem item member))
            (show (print level next ++ printItems level items).length < depth by
              rw [List.length_append]; omega)
          rw [readItems, List.append_assoc, List.append_assoc, ← List.append_assoc (printItems _ _),
            first]
          simp only [printItems, List.append_assoc, List.cons_append, Option.bind_eq_bind,
            Option.bind_some] at others ⊢
          rw [skipBlanks_cons rfl]
          simp only [readItems_newline, others]
          rfl

/-- The first member of an object is read back; behind a comma there are more, and behind a brace
there are none. -/
theorem readMembers_printMember {key : String} {value : Json} (back : ReadsBack value)
    (room : (print level value).length ≤ depth) {text : List Char} (ends : EndsNumber text) :
    (skipBlanks text = ',' :: rest →
      readMembers (depth + 1) (printMember level (key, value) ++ text) =
        (readMembers depth rest).map fun read => ((key, value) :: read.1, read.2)) ∧
    (skipBlanks text = '\x7d' :: rest →
      readMembers (depth + 1) (printMember level (key, value) ++ text) =
        some ([(key, value)], rest)) := by
  have written : printMember level (key, value) ++ text =
      '"' :: (key.toList.flatMap escapeChar ++ '"' :: ':' :: ' ' :: (print level value ++ text)) := by
    simp [printMember, escape]
  have blank : readValue depth (' ' :: (print level value ++ text)) =
      readValue depth (print level value ++ text) := by
    cases depth with
    | zero => rw [readValue, readValue]
    | succ depth => rw [readValue, readValue]; rfl
  rw [written, readMembers, skipBlanks_cons rfl]
  simp only [readString_escape, Option.bind_eq_bind, Option.bind_some, String.ofList_toList]
  rw [skipBlanks_cons rfl]
  simp only [blank, back level depth text room ends, Option.bind_some]
  constructor
  · intro more
    simp only [more]
    cases readMembers depth rest <;> rfl
  · intro last
    rw [last]
    rfl

theorem length_print_le (level : Nat) (member : String × Json) :
    (print level member.2).length ≤ (printMember level member).length := by
  rw [printMember, List.length_append]
  exact Nat.le_add_left _ _

/-- The members of an object are read back. -/
theorem readMembers_print {member : String × Json} {members : List (String × Json)}
    (each : ∀ other ∈ member :: members, ReadsBack other.2)
    (room : (printMember level member ++ printMembers level members).length < depth)
    (close : Nat) (rest : List Char) :
    readMembers depth (printMember level member ++ printMembers level members ++ newline close ++
        '\x7d' :: rest) = some (member :: members, rest) := by
  induction members generalizing member depth with
  | nil =>
      cases depth with
      | zero => exact absurd room (Nat.not_lt_zero _)
      | succ depth =>
          rw [List.length_append] at room
          have shorter := length_print_le level member
          rw [printMembers, List.append_nil, List.append_assoc]
          exact (readMembers_printMember (each member List.mem_cons_self) (by omega)
            (endsNumber_newline close _)).2 (by rw [skipBlanks_newline]; rfl)
  | cons next members ih =>
      cases depth with
      | zero => exact absurd room (Nat.not_lt_zero _)
      | succ depth =>
          simp only [printMembers, newline, List.length_append, List.length_cons] at room
          have shorter := length_print_le level member
          have others := ih (fun other later => each other (List.mem_cons_of_mem member later))
            (show (printMember level next ++ printMembers level members).length < depth by
              rw [List.length_append]; omega)
          simp only [printMembers, List.append_assoc, List.cons_append] at others ⊢
          rw [(readMembers_printMember (each member List.mem_cons_self) (by omega)
            (endsNumber_comma _)).1 (skipBlanks_cons rfl _), readMembers_newline, others]
          rfl

end Items

/-- No text of a value is empty, so that its reader has some depth. -/
theorem Plain.readsBack_of_succ {value : Json} (plain : Plain value)
    (back : ∀ (level depth : Nat) (rest : List Char), (print level value).length ≤ depth + 1 →
      EndsNumber rest → readValue (depth + 1) (print level value ++ rest) = some (value, rest)) :
    ReadsBack value := by
  intro level depth rest room ends
  cases depth with
  | zero =>
      rcases plain.print_eq_cons level with ⟨first, others, written, -⟩
      rw [written] at room
      exact absurd room (Nat.not_succ_le_zero _)
  | succ depth => exact back level depth rest room ends

/-- An array is read back if its items are. -/
theorem Plain.readsBack_array {items : List Json} (each : ∀ item ∈ items, Plain item)
    (back : ∀ item ∈ items, ReadsBack item) : ReadsBack (.array items) := by
  refine (Plain.array each).readsBack_of_succ fun level depth rest room _ => ?_
  cases items with
  | nil => rw [readValue]; rfl
  | cons item items =>
      rcases (each item List.mem_cons_self).print_eq_cons (level + 1) with
        ⟨first, others, begins, mark, other⟩
      simp only [print, newline, List.length_append, List.length_cons] at room
      have shorter : (print (level + 1) item ++ printItems (level + 1) items).length < depth := by
        rw [List.length_append]; omega
      have read := readItems_print back shorter level rest
      have written : print level (.array (item :: items)) ++ rest =
          '[' :: (newline (level + 1) ++ (print (level + 1) item ++
            printItems (level + 1) items ++ newline level ++ ']' :: rest)) := by
        simp [print]
      rw [written, readValue, skipBlanks_cons rfl]
      simp only [skipBlanks_newline, begins, List.cons_append] at read ⊢
      rw [skipBlanks_cons mark]
      split
      next same => exact absurd (List.cons.inj same).1 other
      next =>
        rw [read]
        rfl

/-- An object is read back if the values of its members are. -/
theorem Plain.readsBack_object {members : List (String × Json)}
    (each : ∀ member ∈ members, Plain member.2)
    (back : ∀ member ∈ members, ReadsBack member.2) : ReadsBack (.object members) := by
  refine (Plain.object each).readsBack_of_succ fun level depth rest room _ => ?_
  cases members with
  | nil => rw [readValue]; rfl
  | cons member members =>
      simp only [print, newline, List.length_append, List.length_cons] at room
      have shorter : (printMember (level + 1) member ++
          printMembers (level + 1) members).length < depth := by
        rw [List.length_append]; omega
      have read := readMembers_print back shorter level rest
      have written : print level (.object (member :: members)) ++ rest =
          '\x7b' :: (newline (level + 1) ++ (printMember (level + 1) member ++
            printMembers (level + 1) members ++ newline level ++ '\x7d' :: rest)) := by
        simp [print]
      have begins : ∃ others, printMember (level + 1) member = '"' :: others := by
        rw [printMember, escape]
        exact ⟨_, rfl⟩
      rcases begins with ⟨others, begins⟩
      rw [written, readValue, skipBlanks_cons rfl]
      simp only [skipBlanks_newline, begins, List.cons_append] at read ⊢
      rw [skipBlanks_cons rfl]
      split
      next same => exact absurd (List.cons.inj same).1 (by decide)
      next =>
        rw [read]
        rfl

/-- A value is read back from its text. -/
theorem Plain.readsBack {value : Json} (plain : Plain value) : ReadsBack value := by
  induction plain with
  | null =>
      refine Plain.null.readsBack_of_succ fun level depth rest _ _ => ?_
      rw [readValue]
      rfl
  | bool value =>
      refine (Plain.bool value).readsBack_of_succ fun level depth rest _ _ => ?_
      cases value <;> (rw [readValue]; rfl)
  | number fits =>
      refine (Plain.number fits).readsBack_of_succ fun level depth rest _ ends => ?_
      rcases Number.print_eq_cons fits with ⟨first, others, digits, begins⟩
      have back := Number.read_print fits ends
      rw [digits] at back
      rw [print, digits, List.cons_append, readValue_number begins, ← List.cons_append, back]
      rfl
  | string value =>
      refine (Plain.string value).readsBack_of_succ fun level depth rest _ _ => ?_
      have written : print level (.string value) ++ rest =
          '"' :: (value.toList.flatMap escapeChar ++ '"' :: rest) := by simp [print, escape]
      rw [written, readValue, skipBlanks_cons rfl]
      simp [readString_escape]
  | array each back => exact readsBack_array each back
  | object each back => exact readsBack_object each back

/-- A whole text stands for the value that was written. -/
theorem parse_pretty {value : Json} (plain : Plain value) : parse value.pretty = some value := by
  have back := plain.readsBack 0 ((print 0 value).length + 1) [] (Nat.le_succ _) nofun
  rw [List.append_nil] at back
  rw [parse, pretty, String.toList_ofList, back]
  rfl

end LineTally.Json
