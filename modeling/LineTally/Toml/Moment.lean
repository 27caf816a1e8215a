import LineTally.Text.Digits
import LineTally.Time.Basic

/-!
# Dates and times in TOML

A date, a time of day, or both; behind both there may be an offset from UTC.  Each part has a fixed
number of digits, but for the decimals of the second.
-/

namespace LineTally.Toml

/-- The number that two digits stand for, if it is not above a bound. -/
def pair? (greatest : Nat) (first second : Char) : Option Nat :=
  let number := Text.ofDigits [first, second]
  if first.isDigit && second.isDigit && number ≤ greatest then some number else none

/-- What is behind a date. -/
def readDate : List Char → Option (List Char)
  | a :: b :: c :: d :: '-' :: e :: f :: '-' :: g :: h :: rest => do
    let century ← pair? 99 a b
    let year ← pair? 99 c d
    let month ← pair? 12 e f
    let day ← pair? 31 g h
    let date : Date := { year := 100 * century + year, month, day }
    if date.IsValid then some rest else none
  | _ => none

/-- What is behind the decimals of a second, if there are any. -/
def readDecimals : List Char → Option (List Char)
  | '.' :: digit :: rest => if digit.isDigit then some (rest.dropWhile Char.isDigit) else none
  | '.' :: [] => none
  | rest => some rest

/-- What is behind a time of day. -/
def readTime : List Char → Option (List Char)
  | a :: b :: ':' :: c :: d :: ':' :: e :: f :: rest => do
    let _ ← pair? 23 a b
    let _ ← pair? 59 c d
    let _ ← pair? 60 e f
    readDecimals rest
  | _ => none

/-- Whether a token is an offset from UTC, or nothing. -/
def isOffset : List Char → Bool
  | [] => true
  | ['Z'] => true
  | ['z'] => true
  | [sign, a, b, ':', c, d] =>
    (sign = '+' || sign = '-') && (pair? 23 a b).isSome && (pair? 59 c d).isSome
  | _ => false

/-- Whether a token is a time of day with or without an offset. -/
def isTimeWithOffset (token : List Char) : Bool :=
  (readTime token).any isOffset

/-- Whether a token is a date. -/
def isDate (token : List Char) : Bool :=
  readDate token = some []

/-- Whether a token is a date, a time of day, or both with a letter between them. -/
def isMoment (token : List Char) : Bool :=
  match readDate token with
  | some [] => true
  | some (mark :: rest) => (mark = 'T' || mark = 't') && isTimeWithOffset rest
  | none => readTime token = some []

end LineTally.Toml
