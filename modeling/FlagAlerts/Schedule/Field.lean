/-!
# The fields of a schedule

A schedule has a field for each of seven units of time. A field is a list of items, each a range of
numbers or names with an optional step, and stands for the set of numbers that lie on one of them.
-/

namespace FlagAlerts.Schedule

/-- A unit of time that schedules have a field for. -/
inductive TimeUnit where
  | second
  | minute
  | hour
  | dayOfMonth
  | month
  | dayOfWeek
  | year
  deriving Repr, DecidableEq, Inhabited

namespace TimeUnit

/-- The smallest number of a unit. -/
def least : TimeUnit → Nat
  | .second | .minute | .hour => 0
  | .dayOfMonth | .month | .dayOfWeek => 1
  | .year => 1970

/-- The largest number of a unit. -/
def greatest : TimeUnit → Nat
  | .second | .minute => 59
  | .hour => 23
  | .dayOfMonth => 31
  | .month => 12
  | .dayOfWeek => 7
  | .year => 2100

/-- Every number of a unit, in order. -/
def numbers (u : TimeUnit) : List Nat := List.range' u.least (u.greatest + 1 - u.least)

/-- The names of the numbers of a unit, in lower case. Days of the week start with Sunday as 1. -/
def names : TimeUnit → List (List String)
  | .month =>
    [["jan", "january"], ["feb", "february"], ["mar", "march"], ["apr", "april"], ["may"],
      ["jun", "june"], ["jul", "july"], ["aug", "august"], ["sep", "september"],
      ["oct", "october"], ["nov", "november"], ["dec", "december"]]
  | .dayOfWeek =>
    [["sun", "sunday"], ["mon", "monday"], ["tue", "tues", "tuesday"], ["wed", "wednesday"],
      ["thu", "thurs", "thursday"], ["fri", "friday"], ["sat", "saturday"]]
  | _ => []

/-- The number of a name, whatever the case of its letters. -/
def ofName? (u : TimeUnit) (name : String) : Option Nat :=
  (u.names.findIdx? (·.contains name.toLower)).map (u.least + ·)

/-- The number, if the unit has it. -/
def check? (u : TimeUnit) (n : Nat) : Option Nat :=
  if u.least ≤ n && n ≤ u.greatest then some n else none

end TimeUnit

/-- The numbers that an item of a field starts from. -/
inductive Span where
  | all
  | point (n : Nat)
  | range (first last : Nat)
  | name (s : String)
  | nameRange (first last : String)
  deriving Repr, DecidableEq, Inhabited

/-- One item of a field: all numbers of a span, or every so-manieth of them. -/
structure Item where
  span : Span
  step : Option Nat := none
  deriving Repr, DecidableEq, Inhabited

/-- The numbers from a first to a last one that are whole steps after the first. -/
structure Progression where
  first : Nat
  last : Nat
  step : Nat := 1
  deriving Repr, DecidableEq, Inhabited

namespace Progression

/-- Whether a number is in the progression. -/
def contains (p : Progression) (n : Nat) : Bool :=
  p.first ≤ n && n ≤ p.last && (n - p.first) % p.step == 0

end Progression

namespace Item

/-- The first and last number of a span. A lone number with a step starts a span that has no end
of its own. -/
def bounds? (u : TimeUnit) (hasStep : Bool) : Span → Option (Nat × Nat)
  | .all => some (u.least, u.greatest)
  | .point n => do
    let n ← u.check? n
    return (n, if hasStep then u.greatest else n)
  | .range first last => do
    let first ← u.check? first
    let last ← u.check? last
    return (first, last)
  | .name s => do
    let n ← u.ofName? s
    return (n, n)
  | .nameRange first last => do
    let first ← u.ofName? first
    let last ← u.ofName? last
    return (first, last)

/-- The numbers of an item, if they are numbers of the unit, the span does not descend, and the
step is neither zero nor larger than every number of the unit. -/
def progression? (u : TimeUnit) (item : Item) : Option Progression := do
  let step := item.step.getD 1
  if item.step.isSome && !(1 ≤ step && step ≤ u.greatest) then none
  let (first, last) ← bounds? u item.step.isSome item.span
  if first ≤ last then some ⟨first, last, step⟩ else none

end Item

/-- The numbers of a unit that lie on one of the items, in order. -/
def numbersOf? (u : TimeUnit) (items : List Item) : Option (List Nat) := do
  let progressions ← items.mapM (·.progression? u)
  return u.numbers.filter fun n => progressions.any (·.contains n)

end FlagAlerts.Schedule
