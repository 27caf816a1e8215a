/-!
# Points in time

A point in time is a day of the Gregorian calendar, carried on to the years before it, and a time of
that day, all in UTC.  A second may be the sixtieth, as at the end of a minute that is one second
longer than others.
-/

namespace LineTally

/-- Whether a year has 366 days. -/
def isLeapYear (year : Int) : Bool :=
  year % 4 = 0 && (year % 100 ≠ 0 || year % 400 = 0)

/-- The number of days of a month. -/
def daysInMonth (year : Int) (month : Nat) : Nat :=
  match month with
  | 2 => if isLeapYear year then 29 else 28
  | 4 | 6 | 9 | 11 => 30
  | _ => 31

/-- The first year that can be represented. -/
def firstYear : Int := -262143

/-- The last year that can be represented. -/
def lastYear : Int := 262142

/-- A day of the calendar. -/
structure Date where
  year : Int
  month : Nat
  day : Nat
  deriving DecidableEq, Repr

/-- Whether there is such a day, in a year that can be represented. -/
def Date.IsValid (date : Date) : Prop :=
  firstYear ≤ date.year ∧ date.year ≤ lastYear ∧ 1 ≤ date.month ∧ date.month ≤ 12 ∧
    1 ≤ date.day ∧ date.day ≤ daysInMonth date.year date.month

instance (date : Date) : Decidable date.IsValid := by
  unfold Date.IsValid; infer_instance

/-- The day after. -/
def Date.next (date : Date) : Date :=
  if date.day < daysInMonth date.year date.month then { date with day := date.day + 1 }
  else if date.month < 12 then { date with month := date.month + 1, day := 1 }
  else { year := date.year + 1, month := 1, day := 1 }

/-- The day before. -/
def Date.previous (date : Date) : Date :=
  if 1 < date.day then { date with day := date.day - 1 }
  else if 1 < date.month then
    { date with month := date.month - 1, day := daysInMonth date.year (date.month - 1) }
  else { year := date.year - 1, month := 12, day := 31 }

/-- A point in time. -/
structure Timestamp where
  /-- The day. -/
  date : Date
  /-- The hour of the day. -/
  hour : Nat
  /-- The minute of the hour. -/
  minute : Nat
  /-- The second of the minute, the sixtieth included. -/
  second : Nat
  /-- The billionths of the second. -/
  nano : Nat
  /-- There is such a day. -/
  date_valid : date.IsValid
  hour_lt : hour < 24
  minute_lt : minute < 60
  second_le : second ≤ 60
  nano_lt : nano < 1000000000
  deriving DecidableEq

/-- The point in time with these parts, if there is one. -/
def Timestamp.ofParts? (date : Date) (hour minute second nano : Nat) : Option Timestamp :=
  if valid : date.IsValid ∧ hour < 24 ∧ minute < 60 ∧ second ≤ 60 ∧ nano < 1000000000 then
    some {
      date, hour, minute, second, nano
      date_valid := valid.1
      hour_lt := valid.2.1
      minute_lt := valid.2.2.1
      second_le := valid.2.2.2.1
      nano_lt := valid.2.2.2.2 }
  else none

/-- The parts of a point in time make up that point. -/
@[simp] theorem Timestamp.ofParts?_parts (time : Timestamp) :
    ofParts? time.date time.hour time.minute time.second time.nano = some time := by
  simp [ofParts?, time.date_valid, time.hour_lt, time.minute_lt, time.second_le, time.nano_lt]

/-- The beginning of the day from which times are usually counted. -/
def Timestamp.epoch : Timestamp where
  date := ⟨1970, 1, 1⟩
  hour := 0
  minute := 0
  second := 0
  nano := 0
  date_valid := by decide
  hour_lt := by decide
  minute_lt := by decide
  second_le := by decide
  nano_lt := by decide

instance : Inhabited Timestamp := ⟨Timestamp.epoch⟩

/-- The day that comes a number of days later. -/
def Date.later (date : Date) : Nat → Date
  | 0 => date
  | days + 1 => date.next.later days

/-- The seconds of a day. -/
def secondsOfDay : Nat := 24 * 60 * 60

/-- The point in time that comes so many seconds after the epoch; if it cannot be represented, the
epoch. -/
def Timestamp.ofSeconds (seconds nano : Nat) : Timestamp :=
  let date := epoch.date.later (seconds / secondsOfDay)
  let rest := seconds % secondsOfDay
  (ofParts? date (rest / 3600) (rest / 60 % 60) (rest % 60) nano).getD epoch

end LineTally
