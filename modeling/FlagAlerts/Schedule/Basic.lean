import FlagAlerts.Schedule.Expression
import FlagAlerts.Schedule.Weekday

/-!
# Schedules

A schedule is a set of numbers for each unit of time. It matches a wall clock time if every part of
the time is in its set, the day by its number in the month and by its weekday alike.
-/

namespace FlagAlerts

open FlagAlerts.Text FlagAlerts.Schedule

/-- For each unit of time the numbers at which the schedule fires, in order. -/
structure Schedule where
  seconds : List Nat
  minutes : List Nat
  hours : List Nat
  daysOfMonth : List Nat
  months : List Nat
  /-- From Sunday as 1. -/
  daysOfWeek : List Nat
  years : List Nat
  deriving Repr, DecidableEq, Inhabited

namespace Schedule

/-- The schedule of an expression, if all its numbers and names make sense. -/
def ofExpression? (e : Expression) : Option Schedule := do
  let seconds ← numbersOf? .second e.seconds
  let minutes ← numbersOf? .minute e.minutes
  let hours ← numbersOf? .hour e.hours
  let daysOfMonth ← numbersOf? .dayOfMonth e.daysOfMonth
  let months ← numbersOf? .month e.months
  let daysOfWeek ← numbersOf? .dayOfWeek e.daysOfWeek
  let years ← numbersOf? .year e.years
  return ⟨seconds, minutes, hours, daysOfMonth, months, daysOfWeek, years⟩

/-- The expression that a text stands for: five fields start with minutes and number the days of
the week from Sunday as 0; anything else is taken as it is. -/
def normalize (text : String) : String :=
  match words text with
  | [minute, hour, dayOfMonth, month, dayOfWeek] =>
    " ".intercalate ["0", minute, hour, dayOfMonth, month, Weekday.expand dayOfWeek]
  | _ => trim text

/-- The schedule that a text stands for. -/
def parse? (text : String) : Option Schedule := do
  let e ← Expression.parse? (normalize text)
  ofExpression? e

/-- The numbers of a unit. -/
def numbers (s : Schedule) : TimeUnit → List Nat
  | .second => s.seconds
  | .minute => s.minutes
  | .hour => s.hours
  | .dayOfMonth => s.daysOfMonth
  | .month => s.months
  | .dayOfWeek => s.daysOfWeek
  | .year => s.years

end Schedule

end FlagAlerts
