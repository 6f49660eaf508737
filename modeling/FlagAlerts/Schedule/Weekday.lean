import FlagAlerts.Text.Blank
import FlagAlerts.Text.Decimal
import FlagAlerts.Text.Split

/-!
# Days of the week in five-field expressions

In an expression of five fields the last one numbers the days of the week from Sunday as 0, with 7
as a second number for Sunday. It is expanded to an explicit list of days that starts from Sunday
as 1. A field that cannot be read in this way stands unchanged.
-/

namespace FlagAlerts.Schedule.Weekday

open FlagAlerts.Text

/-- The short names of the days. -/
def names : List String := ["SUN", "MON", "TUE", "WED", "THU", "FRI", "SAT"]

/-- A day by its number, or by its short name in any case. -/
def day? (cs : List Char) : Option Nat :=
  match readNat? maxUInt32 cs with
  | some n => if n ≤ 7 then some n else none
  | none => names.findIdx? (·.toList == cs.map Char.toUpper)

/-- The first and last day of an item without its step. -/
def range? (hasStep : Bool) (cs : List Char) : Option (Nat × Nat) :=
  if cs = ['*'] then some (0, 6)
  else
    match cut? '-' cs with
    | some (first, last) => do
      let first ← day? first
      let last ← day? last
      return (first, last)
    | none => do
      let day ← day? cs
      return (day, if hasStep then max day 6 else day)

/-- The days of an item, from Sunday as 0. -/
def days? (item : List Char) : Option (List Nat) := do
  let (range, step) ← match cut? '/' item with
    | some (range, step) => do
      let step ← readNat? maxUInt64 step
      if step = 0 then none else some (range, step)
    | none => some (item, 1)
  let (first, last) ← range? (item.contains '/') range
  if first > last then none
  else some (((List.range' first (last + 1 - first)).filter fun d => (d - first) % step == 0).map
    (· % 7))

/-- The field as an explicit list of days. -/
def expand (field : String) : String :=
  if field = "*" ∨ field = "?" then field
  else
    match (splitOn ',' field.toList).mapM days? with
    | none => field
    | some days =>
      let numbers := (List.range 7).filter (days.flatten.contains ·)
      ",".intercalate (numbers.map fun d => decimal (d + 1))

end FlagAlerts.Schedule.Weekday
