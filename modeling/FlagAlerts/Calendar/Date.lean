import FlagAlerts.Numbers
import FlagAlerts.Text.Decimal

/-!
# Dates and times of day

The Gregorian calendar, extended to all years. Days are counted from the first of January 1970, and
instants in seconds of Unix time. A wall clock reading is counted in seconds too, as if there were
no offset from Unix time.
-/

namespace FlagAlerts.Calendar

open FlagAlerts.Text

/-- A day of the calendar. -/
structure Date where
  year : Int
  month : Nat
  day : Nat
  deriving Repr, DecidableEq, Inhabited

/-- The seconds of a day. -/
def daySeconds : Int := 86400

/-- A year with a 29th of February. -/
def isLeap (year : Int) : Bool := year % 4 == 0 && (year % 100 != 0 || year % 400 == 0)

/-- The number of days of a month. -/
def daysIn (year : Int) (month : Nat) : Nat :=
  match month with
  | 2 => if isLeap year then 29 else 28
  | 4 | 6 | 9 | 11 => 30
  | _ => 31

/-- The leap days before the first of January of a year, from some day on. -/
def leapDaysBefore (year : Int) : Int := (year - 1) / 4 - (year - 1) / 100 + (year - 1) / 400

/-- The number of the first of January of a year. -/
def yearStart (year : Int) : Int :=
  365 * (year - 1970) + leapDaysBefore year - leapDaysBefore 1970

/-- The days of the months of a year before the given one. -/
def daysBefore (year : Int) (month : Nat) : Nat :=
  total ((List.range (month - 1)).map fun m => daysIn year (m + 1))

namespace Date

/-- The number of a day. -/
def number (d : Date) : Int := yearStart d.year + daysBefore d.year d.month + (d.day - 1 : Nat)

/-- The month and the day of the month of a day of the year, counted from zero. -/
def ofDayOfYear (year : Int) (day : Nat) : Date :=
  let month := ((List.range 11).map (· + 2)).foldl
    (fun found m => if daysBefore year m ≤ day then m else found) 1
  ⟨year, month, day - daysBefore year month + 1⟩

/-- The day of a number. -/
def ofNumber (n : Int) : Date :=
  let guess := 1970 + n * 400 / 146097
  let year :=
    if n < yearStart guess then guess - 1
    else if yearStart (guess + 1) ≤ n then guess + 1
    else guess
  ofDayOfYear year (n - yearStart year).toNat

/-- The day of the week, with Sunday as zero. -/
def weekday (d : Date) : Nat := ((d.number + 4) % 7).toNat

/-- A year in decimal with at least four digits, and with a sign unless it has just four. -/
def yearText (year : Int) : String :=
  if 0 ≤ year && year ≤ 9999 then padded 4 year.toNat
  else (if year < 0 then "-" else "+") ++ padded 4 year.natAbs

/-- The text of a day: year, month and day of the month. -/
def text (d : Date) : String := yearText d.year ++ "-" ++ padded 2 d.month ++ "-" ++ padded 2 d.day

end Date

/-- A reading of a wall clock. -/
structure LocalTime where
  date : Date
  hour : Nat
  minute : Nat
  second : Nat
  deriving Repr, DecidableEq, Inhabited

namespace LocalTime

/-- The reading counted in seconds. -/
def seconds (t : LocalTime) : Int :=
  t.date.number * daySeconds + t.hour * 3600 + t.minute * 60 + t.second

/-- The reading of a count of seconds. -/
def ofSeconds (n : Int) : LocalTime :=
  let s := (n % daySeconds).toNat
  ⟨.ofNumber (n / daySeconds), s / 3600, s / 60 % 60, s % 60⟩

/-- The text of a reading. -/
def text (t : LocalTime) : String :=
  t.date.text ++ "T" ++ padded 2 t.hour ++ ":" ++ padded 2 t.minute ++ ":" ++ padded 2 t.second

end LocalTime

/-- The text of an offset from Unix time: its sign, hours and minutes, the nearest of these. -/
def offsetText (offset : Int) : String :=
  let minutes := (offset.natAbs + 30) / 60
  (if offset < 0 then "-" else "+") ++ padded 2 (minutes / 60) ++ ":" ++ padded 2 (minutes % 60)

end FlagAlerts.Calendar
