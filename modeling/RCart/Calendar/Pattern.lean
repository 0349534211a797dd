import RCart.Calendar.Date

/-!
Patterns of dates and times.

In a pattern a percent sign and what follows it stand for a field of a moment, such as `%Y` for the
year; anything else stands for itself.

* `Moment`: a day and time of day somewhere on earth;
* `Field`, `Item`: the numbers of a moment, and what patterns are made of;
* `Pattern.parse?`: the items of a pattern, `none` when something unknown follows a percent sign;
* `Pattern.write`: a moment written as items say.
-/

namespace RCart

/-! ### Moments -/

/-- A day and time of day, with the local clock so many minutes ahead of universal time. -/
structure Moment where
  date : Date
  time : Time
  ahead : Int := 0
  deriving DecidableEq, Repr

/-- The number of the day on which 1970 starts. -/
def epochDay : Int :=
  Date.dayNumber ⟨1970, 1, 1⟩

/-- The number of seconds since 1970 started in universal time. -/
def Moment.secondsSinceEpoch (m : Moment) : Int :=
  (m.date.dayNumber - epochDay) * 86400 + m.time.hour * 3600 + m.time.minute * 60 + m.time.second
    - m.ahead * 60

/-! ### Fields -/

/-- The numbers of a moment. -/
inductive Field where
  | year
  | century
  | yearOfCentury
  | weekYear
  | weekYearOfCentury
  | quarter
  | month
  | day
  | ordinal
  | week
  | weekFromSunday
  | weekFromMonday
  | weekday
  | weekdayFromMonday
  | hour
  | halfDayHour
  | minute
  | second
  | nanosecond
  | secondsSinceEpoch
  deriving DecidableEq, Repr

namespace Field

/-- The value of a field. Sundays start with zero, Mondays with one. -/
def value (m : Moment) : Field → Int
  | year => m.date.year
  | century => m.date.year / 100
  | yearOfCentury => m.date.year % 100
  | weekYear => m.date.weekOf.1
  | weekYearOfCentury => m.date.weekOf.1 % 100
  | quarter => (m.date.month + 2) / 3
  | month => m.date.month
  | day => m.date.day
  | ordinal => m.date.ordinal
  | week => m.date.weekOf.2
  | weekFromSunday => (m.date.ordinal + 6 - m.date.weekday) / 7
  | weekFromMonday => (m.date.ordinal + 6 - m.date.weekdayFromMonday) / 7
  | weekday => m.date.weekday
  | weekdayFromMonday => m.date.weekdayFromMonday + 1
  | hour => m.time.hour
  | halfDayHour => (m.time.hour + 11) % 12 + 1
  | minute => m.time.minute
  | second => m.time.second
  | nanosecond => m.time.nanosecond
  | secondsSinceEpoch => m.secondsSinceEpoch

/-- The number of digits of a field that is filled up. -/
def width : Field → Nat
  | year | weekYear => 4
  | quarter | weekday | weekdayFromMonday => 1
  | ordinal => 3
  | nanosecond | secondsSinceEpoch => 9
  | _ => 2

end Field

/-- What a number is filled up with. -/
inductive Filling where
  | nothing
  | zeros
  | blanks
  deriving DecidableEq, Repr

/-- A number with a filling. A sign counts for the width; zeros stand behind it and blanks before
it. -/
def Filling.write (filling : Filling) (width : Nat) (n : Int) : List Char :=
  let digits := Nat.toDigits 10 n.natAbs
  let sign := if n < 0 then ['-'] else []
  let missing := width - (sign ++ digits).length
  match filling with
  | .nothing => sign ++ digits
  | .zeros => sign ++ List.replicate missing '0' ++ digits
  | .blanks => List.replicate missing ' ' ++ sign ++ digits

/-! ### Items -/

/-- How an offset from universal time is written. -/
inductive OffsetStyle where
  /-- Hours and minutes. -/
  | plain
  /-- Hours and minutes with a colon. -/
  | colon
  /-- Hours, minutes and seconds with colons. -/
  | colons
  /-- Hours. -/
  | hours
  deriving DecidableEq, Repr

/-- What patterns are made of. -/
inductive Item where
  /-- A character that stands for itself. -/
  | literal (c : Char)
  /-- A number. -/
  | number (field : Field) (filling : Filling)
  /-- The name of the month. -/
  | monthName (short : Bool)
  /-- The name of the day of the week. -/
  | weekdayName (short : Bool)
  /-- The half of the day. -/
  | halfDay (upper : Bool)
  /-- So many digits of the second's fraction, perhaps with the point. -/
  | fraction (point : Bool) (digits : Nat)
  /-- The point and the second's fraction in three, six or nine digits, as many as it needs; nothing
  for a whole second. -/
  | shortestFraction
  /-- The offset from universal time. -/
  | offset (style : OffsetStyle)
  deriving DecidableEq, Repr

/-- The names of the months. -/
def monthNames : List String :=
  ["January", "February", "March", "April", "May", "June", "July", "August", "September", "October",
   "November", "December"]

/-- The names of the days of the week. -/
def weekdayNames : List String :=
  ["Sunday", "Monday", "Tuesday", "Wednesday", "Thursday", "Friday", "Saturday"]

namespace Item

/-- A number filled up with zeros. -/
def zeros (field : Field) : Item :=
  .number field .zeros

/-- A number filled up with blanks. -/
def blanks (field : Field) : Item :=
  .number field .blanks

/-- A name, or its first three letters. -/
def nameText (short : Bool) (name : String) : List Char :=
  if short then name.toList.take 3 else name.toList

/-- The first `digits` of nine digits of a second's fraction. -/
def fractionDigits (digits nanosecond : Nat) : List Char :=
  (padded 9 nanosecond).toList.take digits

/-- An offset in a style. -/
def offsetText (style : OffsetStyle) (ahead : Int) : List Char :=
  let sign := if ahead < 0 then '-' else '+'
  let hours := (padded 2 (ahead.natAbs / 60)).toList
  let minutes := (padded 2 (ahead.natAbs % 60)).toList
  sign :: match style with
    | .plain => hours ++ minutes
    | .colon => hours ++ ':' :: minutes
    | .colons => hours ++ ':' :: minutes ++ [':', '0', '0']
    | .hours => hours

/-- An item of a moment. -/
def write (m : Moment) : Item → List Char
  | literal c => [c]
  | number field filling => filling.write field.width (field.value m)
  | monthName short => nameText short (monthNames[m.date.month - 1]?.getD "")
  | weekdayName short => nameText short (weekdayNames[m.date.weekday]?.getD "")
  | halfDay upper =>
    let late := 12 ≤ m.time.hour
    if upper then (if late then ['P', 'M'] else ['A', 'M'])
    else if late then ['p', 'm'] else ['a', 'm']
  | fraction point digits =>
    (if point then ['.'] else []) ++ fractionDigits digits m.time.nanosecond
  | shortestFraction =>
    let n := m.time.nanosecond
    if n = 0 then []
    else '.' :: fractionDigits (if n % 1000000 = 0 then 3 else if n % 1000 = 0 then 6 else 9) n
  | offset style => offsetText style m.ahead

end Item

/-! ### Patterns -/

namespace Pattern

open Item

/-- Year, month and day. -/
def isoDate : List Item :=
  [zeros .year, .literal '-', zeros .month, .literal '-', zeros .day]

/-- Month, day and year of the century. -/
def slashDate : List Item :=
  [zeros .month, .literal '/', zeros .day, .literal '/', zeros .yearOfCentury]

/-- Hour and minute. -/
def shortClock : List Item :=
  [zeros .hour, .literal ':', zeros .minute]

/-- Hour, minute and second. -/
def clock : List Item :=
  shortClock ++ [.literal ':', zeros .second]

/-- What a letter after a percent sign stands for. -/
def ofLetter? : Char → Option (List Item)
  | 'A' => some [.weekdayName false]
  | 'B' => some [.monthName false]
  | 'C' => some [zeros .century]
  | 'D' | 'x' => some slashDate
  | 'F' => some isoDate
  | 'G' => some [zeros .weekYear]
  | 'H' => some [zeros .hour]
  | 'I' => some [zeros .halfDayHour]
  | 'M' => some [zeros .minute]
  | 'P' => some [.halfDay false]
  | 'R' => some shortClock
  | 'S' => some [zeros .second]
  | 'T' | 'X' => some clock
  | 'U' => some [zeros .weekFromSunday]
  | 'V' => some [zeros .week]
  | 'W' => some [zeros .weekFromMonday]
  | 'Y' => some [zeros .year]
  | 'Z' => some [.offset .colon]
  | 'a' => some [.weekdayName true]
  | 'b' | 'h' => some [.monthName true]
  | 'c' =>
    some ([.weekdayName true, .literal ' ', .monthName true, .literal ' ', blanks .day,
        .literal ' ']
      ++ clock ++ [.literal ' ', zeros .year])
  | 'd' => some [zeros .day]
  | 'e' => some [blanks .day]
  | 'f' => some [zeros .nanosecond]
  | 'g' => some [zeros .weekYearOfCentury]
  | 'j' => some [zeros .ordinal]
  | 'k' => some [blanks .hour]
  | 'l' => some [blanks .halfDayHour]
  | 'm' => some [zeros .month]
  | 'n' => some [.literal '\n']
  | 'p' => some [.halfDay true]
  | 'q' => some [.number .quarter .nothing]
  | 'r' =>
    some [zeros .halfDayHour, .literal ':', zeros .minute, .literal ':', zeros .second,
      .literal ' ', .halfDay true]
  | 's' => some [.number .secondsSinceEpoch .nothing]
  | 't' => some [.literal '\t']
  | 'u' => some [.number .weekdayFromMonday .nothing]
  | 'v' => some [blanks .day, .literal '-', .monthName true, .literal '-', zeros .year]
  | 'w' => some [.number .weekday .nothing]
  | 'y' => some [zeros .yearOfCentury]
  | 'z' => some [.offset .plain]
  | '+' => some (isoDate ++ .literal 'T' :: clock ++ [.shortestFraction, .offset .colon])
  | '%' => some [.literal '%']
  | _ => none

/-- What a letter stands for with a filling of its own. Only a single number can have one. -/
def ofFilledLetter? (filling : Filling) (letter : Char) : Option (List Item) :=
  match ofLetter? letter with
  | some [.number field _] => some [.number field filling]
  | _ => none

/-- What the start of a text that follows a percent sign stands for, and what comes after it. -/
def directive? : List Char → Option (List Item × List Char)
  | '.' :: 'f' :: cs => some ([.shortestFraction], cs)
  | '.' :: '3' :: 'f' :: cs => some ([.fraction true 3], cs)
  | '.' :: '6' :: 'f' :: cs => some ([.fraction true 6], cs)
  | '.' :: '9' :: 'f' :: cs => some ([.fraction true 9], cs)
  | '3' :: 'f' :: cs => some ([.fraction false 3], cs)
  | '6' :: 'f' :: cs => some ([.fraction false 6], cs)
  | '9' :: 'f' :: cs => some ([.fraction false 9], cs)
  | ':' :: 'z' :: cs => some ([.offset .colon], cs)
  | ':' :: ':' :: 'z' :: cs => some ([.offset .colons], cs)
  | ':' :: ':' :: ':' :: 'z' :: cs => some ([.offset .hours], cs)
  | '-' :: c :: cs => (ofFilledLetter? .nothing c).map (·, cs)
  | '0' :: c :: cs => (ofFilledLetter? .zeros c).map (·, cs)
  | '_' :: c :: cs => (ofFilledLetter? .blanks c).map (·, cs)
  | c :: cs => (ofLetter? c).map (·, cs)
  | [] => none

/-- A directive takes at least one character. -/
theorem length_lt_of_directive? {cs rest : List Char} {items : List Item}
    (h : directive? cs = some (items, rest)) : rest.length < cs.length := by
  unfold directive? at h
  split at h <;> simp at h <;> grind

/-- The items of a pattern. -/
def parse? : List Char → Option (List Item)
  | [] => some []
  | c :: cs =>
    if c = '%' then
      match _h : directive? cs with
      | none => none
      | some (items, rest) => (parse? rest).map (items ++ ·)
    else (parse? cs).map (.literal c :: ·)
termination_by cs => cs.length
decreasing_by
  · have := length_lt_of_directive? _h
    simp only [List.length_cons]
    omega
  · simp

/-- A moment written as items say. -/
def write (m : Moment) (items : List Item) : List Char :=
  items.flatMap (Item.write m)

end Pattern

end RCart
