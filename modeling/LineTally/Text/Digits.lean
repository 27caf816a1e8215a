/-!
# Digits

Digits of a base up to sixteen, and the numbers that they stand for.
-/

namespace LineTally.Text

/-- The value of a decimal digit. -/
def digitValue (digit : Char) : Nat := digit.toNat - '0'.toNat

/-- The value of a hexadecimal digit, in either case. -/
def hexValue? (digit : Char) : Option Nat :=
  if '0' ≤ digit ∧ digit ≤ '9' then some (digit.toNat - '0'.toNat)
  else if 'a' ≤ digit ∧ digit ≤ 'f' then some (digit.toNat - 'a'.toNat + 10)
  else if 'A' ≤ digit ∧ digit ≤ 'F' then some (digit.toNat - 'A'.toNat + 10)
  else none

/-- Whether a character is a digit of a base up to sixteen. -/
def isDigitOf (base : Nat) (char : Char) : Bool :=
  (hexValue? char).any (· < base)

/-- The number that digits of a base stand for. -/
def ofDigitsOf (base : Nat) (digits : List Char) : Nat :=
  digits.foldl (fun number digit => number * base + (hexValue? digit).getD 0) 0

/-- The number that decimal digits stand for. -/
def ofDigits (digits : List Char) : Nat :=
  digits.foldl (fun number digit => number * 10 + digitValue digit) 0

/-- The hexadecimal digit of a value below sixteen, in lower case. -/
def hexDigit (value : Nat) : Char :=
  if value < 10 then Char.ofNat ('0'.toNat + value) else Char.ofNat ('a'.toNat + (value - 10))

/-- A number in lower-case hexadecimal, without leading zeros. -/
def hexDigits (number : Nat) : String :=
  String.ofList (Nat.toDigits 16 number)

end LineTally.Text
