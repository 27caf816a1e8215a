import LineTally.Text.Digits

/-!
# Numbers in TOML

Digits may be grouped by underscores, each between two digits.  Whole numbers fit 64 bits with a
sign; a decimal number has no leading zeros, and numbers of other bases have no sign.
-/

namespace LineTally.Toml

/-- The digits without the underscores that group them, if each stands between two digits. -/
def ungroup? (isDigit : Char → Bool) : List Char → Option (List Char)
  | [] => none
  | [digit] => if isDigit digit then some [digit] else none
  | digit :: '_' :: rest =>
    if isDigit digit then (digit :: ·) <$> ungroup? isDigit rest else none
  | digit :: rest =>
    if isDigit digit then (digit :: ·) <$> ungroup? isDigit rest else none

/-- A sign and what is behind it; the sign is minus or not. -/
def splitSign : List Char → Bool × List Char
  | '+' :: rest => (false, rest)
  | '-' :: rest => (true, rest)
  | rest => (false, rest)

/-- Decimal digits without leading zeros. -/
def decimal? (token : List Char) : Option (List Char) := do
  let digits ← ungroup? Char.isDigit token
  if digits.length > 1 ∧ digits.head? = some '0' then none else some digits

/-- A number, if it fits 64 bits with a sign. -/
def word? (number : Int) : Option Int :=
  if -Int.ofNat (Nat.pow 2 63) ≤ number ∧ number < Int.ofNat (Nat.pow 2 63) then some number else none

/-- A whole number of another base than ten, behind its mark. -/
def basedInteger? (base : Nat) (token : List Char) : Option Int := do
  let digits ← ungroup? (Text.isDigitOf base) token
  word? (Text.ofDigitsOf base digits)

/-- A whole number. -/
def integer? : List Char → Option Int
  | '0' :: 'x' :: token => basedInteger? 16 token
  | '0' :: 'o' :: token => basedInteger? 8 token
  | '0' :: 'b' :: token => basedInteger? 2 token
  | token => do
    let (negative, token) := splitSign token
    let size : Int := Text.ofDigits (← decimal? token)
    word? (if negative then -size else size)

/-- Whether a character marks an exponent. -/
def isExponentMark (char : Char) : Bool :=
  char = 'e' || char = 'E'

/-- The digits behind a point, if there is a point. -/
def fraction? : List Char → Option (List Char)
  | [] => some []
  | '.' :: token => ungroup? Char.isDigit token
  | _ => none

/-- The exponent behind its mark, if there is one. -/
def exponent? : List Char → Option Int
  | [] => some 0
  | _ :: token => do
    let (negative, token) := splitSign token
    let size : Int := Text.ofDigits (← ungroup? Char.isDigit token)
    return if negative then -size else size

/-- The double nearest to `digits * 10 ^ ten`, for a number of any size. -/
def nearest (digits : Nat) (ten : Int) : Float :=
  let magnitude := (Nat.toDigits 10 digits).length + ten
  if digits = 0 || magnitude < -400 then 0
  else if 400 < magnitude then 1 / 0
  else Float.ofScientific digits (ten < 0) ten.natAbs

/-- A number that is too large for a double is none; one that is too small, far from zero, is
infinite. -/
def signed? (negative : Bool) (size : Float) : Option Float :=
  if negative then some (-size) else if size.isInf then none else some size

/-- A number with a point, an exponent, or both. -/
def finiteReal? (negative : Bool) (token : List Char) : Option Float := do
  let significant := token.takeWhile (!isExponentMark ·)
  let power := token.dropWhile (!isExponentMark ·)
  let point := significant.dropWhile (· ≠ '.')
  if point.isEmpty && power.isEmpty then none
  else
    let whole ← decimal? (significant.takeWhile (· ≠ '.'))
    let fraction ← fraction? point
    let ten ← exponent? power
    signed? negative (nearest (Text.ofDigits (whole ++ fraction)) (ten - fraction.length))

/-- A real number. -/
def real? (token : List Char) : Option Float :=
  let (negative, token) := splitSign token
  if token = ['i', 'n', 'f'] then some (if negative then -1 / 0 else 1 / 0)
  else if token = ['n', 'a', 'n'] then some (0 / 0)
  else finiteReal? negative token

end LineTally.Toml
