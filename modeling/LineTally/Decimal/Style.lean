import LineTally.Decimal.Shortest

/-!
# Doubles as text

Languages agree that a double is written by the shortest decimal number that rounds to it.  They
differ in which number is taken when two are equally near, and in whether a number that is very
large or very small is written out or with a power of ten.
-/

namespace LineTally.Decimal

/-- The number of digits before the point; if there are none, the number of zeros behind the point
before the first digit, as a negative number. -/
def Scientific.point (decimal : Scientific) : Int :=
  (Nat.toDigits 10 decimal.digits).length + decimal.ten

/-- A decimal number written out, with a digit at least on both sides of the point. -/
def Scientific.writtenOut (decimal : Scientific) : String :=
  let digits := Nat.toDigits 10 decimal.digits
  if 0 ≤ decimal.ten then
    String.ofList (digits ++ List.replicate decimal.ten.toNat '0' ++ ['.', '0'])
  else if 0 < decimal.point then
    String.ofList (digits.take decimal.point.toNat ++ '.' :: digits.drop decimal.point.toNat)
  else
    String.ofList ('0' :: '.' :: List.replicate (-decimal.point).toNat '0' ++ digits)

/-- A decimal number with one digit before the point, and a power of ten that has a sign. -/
def Scientific.withPower (decimal : Scientific) : String :=
  let digits := Nat.toDigits 10 decimal.digits
  let rest := digits.drop 1
  let power := decimal.point - 1
  String.ofList (digits.take 1 ++ (if rest.isEmpty then [] else '.' :: rest))
    ++ (if power < 0 then "e-" else "e+") ++ toString power.natAbs

/-- What a language decides about the text of doubles. -/
structure Style where
  /-- Which of two equally near numbers is written. -/
  tie : Tie
  /-- Whether a number with its point there is written out. -/
  writesOut : (point : Int) → Bool

/-- A double as it is written. -/
def Style.render (style : Style) (value : Float) : String :=
  let sign := if value.toBits.toNat / Nat.pow 2 63 = 1 then "-" else ""
  if value.isNaN then "NaN"
  else if value.isInf then sign ++ "inf"
  else if value == 0 then sign ++ "0.0"
  else
    let decimal := ((Binary.ofFloat value).shortest style.tie).trim
    sign ++ if style.writesOut decimal.point then decimal.writtenOut else decimal.withPower

end LineTally.Decimal
