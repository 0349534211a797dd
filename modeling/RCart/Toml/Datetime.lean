import RCart.Calendar.Date

/-!
Dates and times of TOML documents.

A date-time is any combination of a date, a time of day and an offset that TOML allows; its written
form is always the same, whatever the document looked like.
-/

namespace RCart.Toml

/-- How far a time is from universal time. -/
inductive Offset where
  /-- Universal time. -/
  | universal
  /-- So many minutes ahead. -/
  | minutes (ahead : Int)
  deriving DecidableEq, Repr

/-- A date, a time of day, or both with or without an offset. -/
structure Datetime where
  date : Option Date := none
  time : Option Time := none
  offset : Option Offset := none
  deriving DecidableEq, Repr

/-! ### Written form -/

/-- A day as year, month and day. -/
def dateText (d : Date) : String :=
  padded 4 d.year ++ "-" ++ padded 2 d.month ++ "-" ++ padded 2 d.day

/-- A fraction of a second without trailing zeros, and nothing for a whole second. -/
def fractionText (nanosecond : Nat) : String :=
  if nanosecond = 0 then ""
  else "." ++ String.ofList ((padded 9 nanosecond).toList.reverse.dropWhile (· == '0')).reverse

/-- A time of day as hours, minutes and seconds. -/
def timeText (t : Time) : String :=
  padded 2 t.hour ++ ":" ++ padded 2 t.minute ++ ":" ++ padded 2 t.second
    ++ fractionText t.nanosecond

/-- An offset as a sign, hours and minutes. -/
def Offset.text : Offset → String
  | .universal => "Z"
  | .minutes ahead =>
    (if ahead < 0 then "-" else "+") ++ padded 2 (ahead.natAbs / 60) ++ ":"
      ++ padded 2 (ahead.natAbs % 60)

/-- The written form of a date-time. -/
def Datetime.text (d : Datetime) : String :=
  let date := (d.date.map dateText).getD ""
  let time := (d.time.map timeText).getD ""
  let offset := (d.offset.map Offset.text).getD ""
  date ++ (if d.date.isSome && d.time.isSome then "T" else "") ++ time ++ offset

end RCart.Toml
