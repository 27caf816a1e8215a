import LineTally.Text.Blank
import LineTally.Text.Digits
import LineTally.Time.Basic

/-!
# Times as text

A time is written as RFC 3339 says: date, `T`, time of day and `Z`, with as few of 0, 3, 6 or 9
decimals as are exact, and a signed year where four digits do not do.

A reader splits something off the front of a text, and leaves the rest.  Reading is more generous
than writing: blanks may stand before numbers and separators, numbers may have fewer digits, a
blank or a small letter may stand for `T`, and the time may be local to an offset from UTC, which
is then taken off.
-/

namespace LineTally.Time

/-- Why a text is not a time. -/
inductive Flaw where
  /-- A number is too large or too small, or there is no such day. -/
  | outOfRange
  /-- The text breaks off. -/
  | tooShort
  /-- A character stands where it may not. -/
  | invalid
  /-- Something stands behind the time. -/
  | tooLong
  /-- The time in UTC cannot be represented. -/
  | impossible
  deriving DecidableEq, Repr

/-- The text by which a flaw is reported. -/
def Flaw.message : Flaw → String
  | outOfRange => "input is out of range"
  | tooShort => "premature end of input"
  | invalid => "input contains invalid characters"
  | tooLong => "trailing input"
  | impossible => "no possible date and time matching input"

/-- The digits at the front of a text, and what is behind them. -/
def readDigits (text : List Char) : Except Flaw (List Char × List Char) :=
  match text with
  | [] => .error .tooShort
  | char :: _ =>
    if char.isDigit then .ok (text.takeWhile Char.isDigit, text.dropWhile Char.isDigit)
    else .error .invalid

/-- At most so many digits at the front of a text, and what is behind them. -/
def readUpTo (most : Nat) (text : List Char) : Except Flaw (List Char × List Char) := do
  let (digits, rest) ← readDigits text
  return (digits.take most, digits.drop most ++ rest)

/-- The greatest number that a signed 64-bit word can hold. -/
def wordLimit : Nat := Nat.pow 2 63 - 1

/-- A year behind a sign, of any number of digits that a word can hold. -/
def readSignedYear (negative : Bool) (text : List Char) : Except Flaw (Int × List Char) := do
  let (digits, rest) ← readDigits text
  let size := Text.ofDigits digits
  if size > wordLimit then throw .outOfRange
  let year : Int := if negative then -(size : Int) else size
  if year < -Int.ofNat (Nat.pow 2 31) ∨ Int.ofNat (Nat.pow 2 31) ≤ year then throw .outOfRange
  return (year, rest)

/-- A year: up to four digits, or a sign and any number of digits. -/
def readYear (text : List Char) : Except Flaw (Int × List Char) :=
  match Text.trimStart text with
  | '-' :: rest => readSignedYear true rest
  | '+' :: rest => readSignedYear false rest
  | text => do
    let (digits, rest) ← readUpTo 4 text
    return ((Text.ofDigits digits : Int), rest)

/-- A number of up to two digits between two bounds. -/
def readPair (least greatest : Nat) (text : List Char) : Except Flaw (Nat × List Char) := do
  let (digits, rest) ← readUpTo 2 (Text.trimStart text)
  let number := Text.ofDigits digits
  if number < least ∨ greatest < number then throw .outOfRange
  return (number, rest)

/-- The rest behind a character that must come next. -/
def readLiteral (wanted : Char) (text : List Char) : Except Flaw (List Char) :=
  match Text.trimStart text with
  | [] => .error .tooShort
  | char :: rest => if char = wanted then .ok rest else .error .invalid

/-- The rest behind the character between date and time. -/
def readSeparator : List Char → Except Flaw (List Char)
  | [] => .error .tooShort
  | char :: rest =>
    if char = 't' ∨ char = 'T' ∨ char = ' ' then .ok rest else .error .invalid

/-- The billionths of a second behind a point, further digits left out; none if there is no
point. -/
def readFraction : List Char → Except Flaw (Nat × List Char)
  | '.' :: text => do
    let (digits, rest) ← readUpTo 9 text
    return (Text.ofDigits digits * Nat.pow 10 (9 - digits.length), rest.dropWhile Char.isDigit)
  | text => .ok (0, text)

/-- Two characters that should be digits. -/
def readTwo : List Char → Except Flaw ((Char × Char) × List Char)
  | [] => .error .tooShort
  | [char] => if char.toNat < 0x80 then .error .tooShort else .error .invalid
  | first :: second :: rest => .ok ((first, second), rest)

/-- The hours of an offset. -/
def readOffsetHours (text : List Char) : Except Flaw (Nat × List Char) := do
  let ((first, second), rest) ← readTwo text
  if first.isDigit && second.isDigit then return (Text.ofDigits [first, second], rest)
  throw .invalid

/-- The minutes of an offset. -/
def readOffsetMinutes (text : List Char) : Except Flaw (Nat × List Char) := do
  let ((first, second), rest) ← readTwo text
  if first.isDigit && second.isDigit then
    if '5' < first then throw .outOfRange
    return (Text.ofDigits [first, second], rest)
  throw .invalid

/-- Whether the rest starts with the three letters for UTC, large or small. -/
def startsWithUtc : List Char → Bool
  | u :: t :: c :: _ => (u = 'U' || u = 'u') && (t = 'T' || t = 't') && (c = 'C' || c = 'c')
  | _ => false

/-- An offset from UTC in minutes, ahead of it if positive. -/
def readOffset (text : List Char) : Except Flaw (Int × List Char) := do
  if startsWithUtc text then return (0, text.drop 3)
  let (negative, rest) ← match text with
    | [] => throw .tooShort
    | char :: rest =>
      if char = 'Z' ∨ char = 'z' then return (0, rest)
      else if char = '+' then pure (false, rest)
      else if char = '-' ∨ char = '−' then pure (true, rest)
      else throw .invalid
  let (hours, rest) ← readOffsetHours rest
  let isFiller := fun (char : Char) => char = ':' || Text.isBlank char
  let (minutes, rest) ← readOffsetMinutes (rest.dropWhile isFiller)
  let size : Int := hours * 60 + minutes
  return (if negative then -size else size, rest)

/-- A time as it is written, before its parts are put together. -/
structure Written where
  date : Date
  hour : Nat
  minute : Nat
  second : Nat
  nano : Nat
  /-- The offset from UTC in minutes. -/
  offset : Int
  deriving DecidableEq, Repr

/-- Splits a time off. -/
def Written.read (text : List Char) : Except Flaw (Written × List Char) := do
  let (year, text) ← readYear text
  let text ← readLiteral '-' text
  let (month, text) ← readPair 1 12 text
  let text ← readLiteral '-' text
  let (day, text) ← readPair 1 31 text
  let text ← readSeparator text
  let (hour, text) ← readPair 0 23 text
  let text ← readLiteral ':' text
  let (minute, text) ← readPair 0 59 text
  let text ← readLiteral ':' text
  let (second, text) ← readPair 0 60 text
  let (nano, text) ← readFraction text
  let (offset, text) ← readOffset (Text.trimStart text)
  return ({ date := { year, month, day }, hour, minute, second, nano, offset }, text)

/-- The minutes of a day. -/
def minutesPerDay : Int := 1440

/-- The point in time: the offset is taken off, which may lead to the day before or after. -/
def Written.toTimestamp (written : Written) : Except Flaw Timestamp :=
  if ¬ written.date.IsValid then .error .outOfRange
  else if written.offset ≤ -minutesPerDay ∨ minutesPerDay ≤ written.offset then
    .error .outOfRange
  else
    let minutes : Int := written.hour * 60 + written.minute - written.offset
    let date :=
      if minutes < 0 then written.date.previous
      else if minutesPerDay ≤ minutes then written.date.next
      else written.date
    let ofDay := (minutes % minutesPerDay).toNat
    match Timestamp.ofParts? date (ofDay / 60) (ofDay % 60) written.second written.nano with
    | some time => .ok time
    | none => .error .impossible

/-- The point in time that a whole text stands for. -/
def parse (text : String) : Except Flaw Timestamp := do
  let (written, rest) ← Written.read text.toList
  if (Text.trimStart rest).isEmpty then written.toTimestamp else throw .tooLong

/-- A number with zeros before it, at least so many digits wide. -/
def padded (width number : Nat) : List Char :=
  let digits := Nat.toDigits 10 number
  List.replicate (width - digits.length) '0' ++ digits

/-- A year: four digits, with a sign and more digits if they are needed. -/
def printYear (year : Int) : List Char :=
  if 0 ≤ year ∧ year ≤ 9999 then padded 4 year.toNat
  else (if year < 0 then '-' else '+') :: padded 4 year.natAbs

/-- The fraction of a second, with as few decimals as are exact. -/
def printFraction (nano : Nat) : List Char :=
  if nano = 0 then []
  else if nano % 1000000 = 0 then '.' :: padded 3 (nano / 1000000)
  else if nano % 1000 = 0 then '.' :: padded 6 (nano / 1000)
  else '.' :: padded 9 nano

/-- The characters of a time. -/
def print (time : Timestamp) : List Char :=
  printYear time.date.year ++ '-' :: padded 2 time.date.month ++ '-' :: padded 2 time.date.day ++
    'T' :: padded 2 time.hour ++ ':' :: padded 2 time.minute ++ ':' :: padded 2 time.second ++
    printFraction time.nano ++ ['Z']

/-- A time as text. -/
def render (time : Timestamp) : String :=
  String.ofList (print time)

end LineTally.Time
