import LineTally.Json.Basic
import LineTally.Text.Digits

/-!
# Reading JSON numbers

A number without fraction and exponent is whole if it fits 64 bits.  Any other is real: its digits
are taken as a whole number while they fit 64 bits, further digits only count as places, and the
result is scaled by a power of ten.
-/

namespace LineTally.Json

/-- A number as it is written. -/
structure Literal where
  /-- There is a minus sign. -/
  negative : Bool
  /-- The digits before the point. -/
  integer : List Char
  /-- The digits behind the point; none if there is no point. -/
  fraction : List Char
  /-- The power of ten, if there is one. -/
  exponent : Option Int
  deriving Repr

/-- Splits digits off. -/
def spanDigits (text : List Char) : List Char × List Char :=
  (text.takeWhile Char.isDigit, text.dropWhile Char.isDigit)

/-- The digits before the point: a zero alone, or digits that do not start with one. -/
def readInteger : List Char → Option (List Char × List Char)
  | '0' :: rest => some (['0'], rest)
  | text =>
    let (digits, rest) := spanDigits text
    if digits.isEmpty then none else some (digits, rest)

/-- The digits behind the point, if there is one. -/
def readFraction : List Char → Option (List Char × List Char)
  | '.' :: text =>
    let (digits, rest) := spanDigits text
    if digits.isEmpty then none else some (digits, rest)
  | text => some ([], text)

/-- The sign of an exponent. -/
def readSign : List Char → Bool × List Char
  | '+' :: rest => (false, rest)
  | '-' :: rest => (true, rest)
  | rest => (false, rest)

/-- The power of ten, if there is one. -/
def readExponent : List Char → Option (Option Int × List Char)
  | mark :: text =>
    if mark = 'e' ∨ mark = 'E' then
      let (negative, text) := readSign text
      let (digits, rest) := spanDigits text
      if digits.isEmpty then none
      else
        let size : Int := Text.ofDigits digits
        some (some (if negative then -size else size), rest)
    else some (none, mark :: text)
  | [] => some (none, [])

/-- Splits a number off, as it is written. -/
def Literal.read (text : List Char) : Option (Literal × List Char) := do
  let (negative, text) := match text with
    | '-' :: rest => (true, rest)
    | rest => (false, rest)
  let (integer, text) ← readInteger text
  let (fraction, text) ← readFraction text
  let (exponent, text) ← readExponent text
  return ({ negative, integer, fraction, exponent }, text)

/-- Takes digits into a number while it fits 64 bits, and leaves the others. -/
def accumulate (number : Nat) : List Char → Nat × List Char
  | [] => (number, [])
  | digit :: rest =>
    let next := number * 10 + Text.digitValue digit
    if next < Nat.pow 2 64 then accumulate next rest else (number, digit :: rest)

/-- The greatest power of ten among the doubles. -/
def greatestPower : Nat := 308

/-- A power of ten as a double. -/
def powerOfTen (exponent : Nat) : Float := Float.ofScientific 1 false exponent

/-- Divides by a power of ten, in steps that are doubles. -/
def scaleDown (value : Float) (exponent : Nat) : Float :=
  if exponent ≤ greatestPower then value / powerOfTen exponent
  else if value == 0 then value
  else scaleDown (value / powerOfTen greatestPower) (exponent - greatestPower)
termination_by exponent
decreasing_by
  have : 0 < greatestPower := by decide
  omega

/-- Scales a double by a power of ten, if the result is a double. -/
def scale (value : Float) (exponent : Int) : Option Float :=
  if exponent < 0 then some (scaleDown value exponent.natAbs)
  else if value == 0 then some value
  else if exponent.natAbs ≤ greatestPower then
    let scaled := value * powerOfTen exponent.natAbs
    if scaled.isInf then none else some scaled
  else none

/-- The double that a number stands for. -/
def Literal.real? (literal : Literal) : Option Float := do
  let (whole, beyond) := accumulate 0 literal.integer
  let (digits, unused) := accumulate whole literal.fraction
  let used := literal.fraction.length - unused.length
  let exponent := (beyond.length : Int) - used + literal.exponent.getD 0
  let size ← scale digits.toUInt64.toFloat exponent
  return if literal.negative then -size else size

/-- The number that is written. -/
def Literal.value? (literal : Literal) : Option Number :=
  let size := Text.ofDigits literal.integer
  let plain := literal.fraction.isEmpty && literal.exponent.isNone
  if plain && !literal.negative && size < Nat.pow 2 64 then some (.whole size)
  else if plain && literal.negative && 0 < size && size ≤ Nat.pow 2 63 then some (.whole (-size))
  else literal.real?.map .real

/-- Splits a number off. -/
def Number.read (text : List Char) : Option (Number × List Char) := do
  let (literal, rest) ← Literal.read text
  return (← literal.value?, rest)

end LineTally.Json
