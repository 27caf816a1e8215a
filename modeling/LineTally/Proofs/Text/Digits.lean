import LineTally.Text.Digits

/-!
# Digits stand for their number

The decimal digits of a number, with zeros before them or not, stand for it; they begin with a zero
only if they are a zero; and a reader that takes digits as long as there are any takes all of them
and nothing else.
-/

namespace LineTally.Text

/-! ## Decimal digits -/

/-- Digits add up in the same way wherever they are. -/
theorem ofDigits_eq_ofDigitChars (digits : List Char) :
    ofDigits digits = Nat.ofDigitChars 10 digits 0 := by
  simp only [ofDigits, digitValue, Nat.ofDigitChars_eq_foldl, Nat.mul_comm]

/-- The digits of a number stand for it. -/
@[simp] theorem ofDigits_toDigits (number : Nat) : ofDigits (Nat.toDigits 10 number) = number := by
  rw [ofDigits_eq_ofDigitChars, Nat.ofDigitChars_ten_toDigits]

/-- Zeros before its digits do not change a number. -/
theorem ofDigits_replicate_append (zeros number : Nat) :
    ofDigits (List.replicate zeros '0' ++ Nat.toDigits 10 number) = number := by
  rw [ofDigits_eq_ofDigitChars, Nat.ofDigitChars_append, Nat.ofDigitChars_replicate_zero,
    Nat.mul_zero, Nat.ofDigitChars_ten_toDigits]

/-- The digits of a number are digits. -/
theorem isDigit_of_mem_toDigits {number : Nat} {char : Char}
    (member : char ∈ Nat.toDigits 10 number) : char.isDigit = true :=
  Nat.isDigit_of_mem_toDigits (by decide) (by decide) member

/-- The digits of a number begin with a digit. -/
theorem toDigits_eq_cons (number : Nat) :
    ∃ first rest, Nat.toDigits 10 number = first :: rest ∧ first.isDigit = true := by
  cases digits : Nat.toDigits 10 number with
  | nil => exact absurd digits Nat.toDigits_ne_nil
  | cons first rest =>
      exact ⟨first, rest, rfl, isDigit_of_mem_toDigits (digits ▸ List.mem_cons_self)⟩

/-- Only zero begins with a zero. -/
theorem eq_zero_of_head?_toDigits {number : Nat}
    (zero : (Nat.toDigits 10 number).head? = some '0') : number = 0 := by
  induction number using Nat.strongRecOn with
  | ind number ih =>
      rw [Nat.toDigits_eq_if (by decide)] at zero
      split at zero
      next small =>
        have digit : ∀ value < 10, Nat.digitChar value = '0' → value = 0 := by decide
        exact digit number small (Option.some.inj zero)
      next large =>
        rcases toDigits_eq_cons (number / 10) with ⟨first, rest, digits, -⟩
        rw [digits, List.cons_append, List.head?_cons] at zero
        have tenth := ih (number / 10) (by omega) (digits ▸ zero)
        omega

/-- The text does not begin with a digit. -/
def NoDigit (text : List Char) : Prop :=
  ∀ char ∈ text.head?, char.isDigit = false

theorem NoDigit.cons {first : Char} (mark : first.isDigit = false) (rest : List Char) :
    NoDigit (first :: rest) :=
  fun _ same => Option.some.inj same ▸ mark

/-- There is nothing to take from a text that does not begin with a digit. -/
theorem NoDigit.dropWhile {text : List Char} (stop : NoDigit text) :
    text.dropWhile Char.isDigit = text := by
  cases text with
  | nil => rfl
  | cons first rest =>
      exact List.dropWhile_cons_of_neg (by rw [stop first rfl]; exact Bool.false_ne_true)

/-- A reader of digits takes all of them, and stops behind them. -/
theorem takeWhile_isDigit_append {digits rest : List Char}
    (all : ∀ char ∈ digits, char.isDigit = true) (stop : NoDigit rest) :
    (digits ++ rest).takeWhile Char.isDigit = digits ∧
      (digits ++ rest).dropWhile Char.isDigit = rest := by
  rw [List.takeWhile_append_of_pos all, List.dropWhile_append_of_pos all, stop.dropWhile]
  refine ⟨?_, rfl⟩
  cases rest with
  | nil => exact List.append_nil digits
  | cons first rest =>
      rw [List.takeWhile_cons_of_neg (by rw [stop first rfl]; exact Bool.false_ne_true),
        List.append_nil]

/-! ## Hexadecimal digits -/

/-- A hexadecimal digit has the value that it was made for. -/
theorem hexValue?_hexDigit {value : Nat} (small : value < 16) :
    hexValue? (hexDigit value) = some value := by
  revert value
  decide

end LineTally.Text
