/-!
# The shortest decimal form of a double

A double is a whole number times a power of two, and the real numbers that round to it form an
interval.  Its decimal form has the fewest digits of all decimal numbers in that interval, and of
those with so few digits it is the nearest; of two that are equally near, a rule takes one.
Everything is computed in whole numbers.
-/

namespace LineTally.Decimal

/-- A positive double `size * 2 ^ power`, with the distances to its neighbours. -/
structure Binary where
  /-- The significant bits as a number. -/
  size : Nat
  /-- The power of two. -/
  power : Int
  /-- The lower neighbour is only half as far away as the upper one. -/
  closeBelow : Bool
  deriving DecidableEq, Repr

/-- The size of a finite double that is not zero. -/
def Binary.ofFloat (value : Float) : Binary :=
  let bits := value.toBits.toNat
  let exponent : Nat := bits / Nat.pow 2 52 % Nat.pow 2 11
  let fraction := bits % Nat.pow 2 52
  if exponent = 0 then { size := fraction, power := -1074, closeBelow := false }
  else {
    size := Nat.pow 2 52 + fraction
    power := (exponent : Int) - 1075
    closeBelow := fraction = 0 && exponent > 1 }

/-- Factors that make `number * 10 ^ ten` and `quarters * 2 ^ (power - 2)` comparable: the first
number times the first factor is to the second times the second as the values are. -/
def factors (power ten : Int) : Nat × Nat :=
  (Nat.pow 10 ten.toNat * Nat.pow 2 (2 - power).toNat,
    Nat.pow 2 (power - 2).toNat * Nat.pow 10 (-ten).toNat)

/-- A decimal number `digits * 10 ^ ten`. -/
structure Scientific where
  digits : Nat
  ten : Int
  deriving DecidableEq, Repr

/-- Whether a decimal number rounds to the double. -/
def Binary.accepts (binary : Binary) (decimal : Scientific) : Bool :=
  let (ours, theirs) := factors binary.power decimal.ten
  let value := decimal.digits * ours
  let least := (4 * binary.size - if binary.closeBelow then 1 else 2) * theirs
  let greatest := (4 * binary.size + 2) * theirs
  if binary.size % 2 = 0 then least ≤ value && value ≤ greatest
  else least < value && value < greatest

/-- The power of ten of the first digit of the double. -/
def Binary.magnitude (binary : Binary) : Int :=
  let (ours, theirs) := factors binary.power (-400)
  (Nat.toDigits 10 (4 * binary.size * theirs / ours)).length - 401

/-- Which of two neighbours is taken when they are equally near. -/
inductive Tie where
  /-- The one with an even last digit. -/
  | even
  /-- The one further from zero. -/
  | away
  deriving DecidableEq, Repr

/-- Whether the one closer to zero is taken, whose digits are given. -/
def Tie.takesLower : Tie → Nat → Bool
  | even, digits => digits % 2 = 0
  | away, _ => false

/-- The nearest number on the grid of a power of ten that rounds to the double, if there is any. -/
def Binary.onGrid? (binary : Binary) (tie : Tie) (ten : Int) : Option Scientific :=
  let (ours, theirs) := factors binary.power ten
  let value := 4 * binary.size * theirs
  let below : Scientific := { digits := value / ours, ten }
  let above : Scientific := { digits := value / ours + 1, ten }
  match binary.accepts below, binary.accepts above with
  | true, true =>
    match compare (2 * (value % ours)) ours with
    | .lt => some below
    | .eq => some (if tie.takesLower below.digits then below else above)
    | .gt => some above
  | true, false => some below
  | false, true => some above
  | false, false => none

/-- The shortest decimal number that rounds to the double. -/
def Binary.shortest (binary : Binary) (tie : Tie) : Scientific :=
  ((List.range 17).findSome? fun (index : Nat) =>
    binary.onGrid? tie (binary.magnitude - index)).getD
      { digits := binary.size, ten := binary.power }

/-- Leaves out zeros at the end of the digits. -/
def Scientific.trim (decimal : Scientific) : Scientific :=
  let digits := Nat.toDigits 10 decimal.digits
  let zeros := (digits.reverse.takeWhile (· = '0')).length
  { digits := decimal.digits / Nat.pow 10 zeros, ten := decimal.ten + zeros }

/-- The nearest number with at most 53 significant bits; of two, the one with an even last bit. -/
def toDouble (number : Nat) : Nat :=
  let unit := Nat.pow 2 (number.log2 - 52)
  let below := number / unit
  let rest := number % unit
  if 2 * rest < unit ∨ 2 * rest = unit ∧ below % 2 = 0 then below * unit else (below + 1) * unit

end LineTally.Decimal
