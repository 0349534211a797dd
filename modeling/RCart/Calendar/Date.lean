/-!
Days and times of day.

* `Date`, `Time`: a day and a time of day, and which of them exist;
* `Date.ordinal`, `Date.dayNumber`: where a day stands in its year and in all of time;
* `Date.weekday`, `Date.weekOf`: where it stands in its week, and which week that is;
* `padded`: a natural with at least so many digits.
-/

namespace RCart

/-- A day. -/
structure Date where
  year : Nat
  month : Nat
  day : Nat
  deriving DecidableEq, Repr

/-- A time of day. -/
structure Time where
  hour : Nat
  minute : Nat
  second : Nat
  nanosecond : Nat
  deriving DecidableEq, Repr

/-! ### What exists -/

/-- Whether a year has a leap day. -/
def isLeapYear (year : Nat) : Bool :=
  year % 4 == 0 && (year % 100 != 0 || year % 400 == 0)

/-- The number of days of a month. -/
def daysInMonth (year month : Nat) : Nat :=
  if month = 2 then
    if isLeapYear year then 29 else 28
  else if month = 4 ∨ month = 6 ∨ month = 9 ∨ month = 11 then 30
  else 31

/-- Whether a day exists. -/
def Date.isValid (d : Date) : Bool :=
  1 ≤ d.month && d.month ≤ 12 && 1 ≤ d.day && d.day ≤ daysInMonth d.year d.month

/-- Whether a time of day exists; a minute may have a leap second. -/
def Time.isValid (t : Time) : Bool :=
  t.hour ≤ 23 && t.minute ≤ 59 && t.second ≤ 60

/-! ### Counting days -/

namespace Date

/-- The number of days from the start of the year, the day itself included. -/
def ordinal (d : Date) : Nat :=
  ((List.range (d.month - 1)).map fun m => daysInMonth d.year (m + 1)).foldl (· + ·) 0 + d.day

/-- The number of days of all years before `year`, counted from the year one. -/
def daysBefore (year : Nat) : Int :=
  let past : Int := year - 1
  365 * past + past / 4 - past / 100 + past / 400

/-- The number of days since the last day before the year one, a Sunday. -/
def dayNumber (d : Date) : Int :=
  daysBefore d.year + d.ordinal

/-- The day of the week: zero for Sunday, six for Saturday. -/
def weekday (d : Date) : Nat :=
  (d.dayNumber % 7).toNat

/-- The day of the week: zero for Monday, six for Sunday. -/
def weekdayFromMonday (d : Date) : Nat :=
  (d.weekday + 6) % 7

/-- The number of weeks of a year. A week belongs to the year that has its Thursday. -/
def weeksIn (year : Nat) : Nat :=
  let first := (Date.mk year 1 1).weekday
  if first = 4 ∨ (first = 3 ∧ isLeapYear year) then 53 else 52

/-- The year that a day's week belongs to, and the number of the week in it. -/
def weekOf (d : Date) : Nat × Nat :=
  let week := (d.ordinal + 9 - d.weekdayFromMonday) / 7
  if week = 0 then (d.year - 1, weeksIn (d.year - 1))
  else if weeksIn d.year < week then (d.year + 1, 1)
  else (d.year, week)

end Date

/-! ### Digits -/

/-- A natural with at least `width` digits. -/
def padded (width n : Nat) : String :=
  let digits := Nat.toDigits 10 n
  String.ofList (List.replicate (width - digits.length) '0' ++ digits)

end RCart
