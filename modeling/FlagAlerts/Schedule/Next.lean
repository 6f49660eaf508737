import FlagAlerts.Calendar.Zone
import FlagAlerts.Schedule.Basic

/-!
# The times at which a schedule fires

From an instant on, a schedule fires at the first wall clock time, read from one second later on,
that it matches and that the zone's clocks show. A time that they show twice yields both instants.
-/

namespace FlagAlerts.Schedule

open FlagAlerts.Calendar

/-- Whether the schedule fires on a day. -/
def matchesDay (s : Schedule) (d : Date) : Bool :=
  s.years.contains d.year.toNat && s.months.contains d.month && s.daysOfMonth.contains d.day &&
    s.daysOfWeek.contains (d.weekday + 1)

/-- Whether the schedule fires at a wall clock time. -/
def isMatch (s : Schedule) (t : LocalTime) : Bool :=
  0 ≤ t.date.year && s.matchesDay t.date && s.hours.contains t.hour &&
    s.minutes.contains t.minute && s.seconds.contains t.second

/-- The members of a list that are not below a bound, which holds only while it is tight. Each comes
with whether the bound is still tight behind it. -/
def above (numbers : List Nat) (bound : Option Nat) : List (Nat × Bool) :=
  match bound with
  | none => numbers.map (·, false)
  | some b => (numbers.filter (b ≤ ·)).map fun n => (n, n == b)

/-- The first result for a time of day that the schedule fires at, from a time of day on. -/
def firstTime? {α : Type} (s : Schedule) (start : Option LocalTime)
    (found : Nat → Nat → Nat → Option α) : Option α :=
  (above s.hours (start.map (·.hour))).findSome? fun (h, tight) =>
    (above s.minutes (if tight then start.map (·.minute) else none)).findSome? fun (m, tight) =>
      (above s.seconds (if tight then start.map (·.second) else none)).findSome? fun (sec, _) =>
        found h m sec

/-- The first result for a day that the schedule fires on, from a day on, with whether it is the
first of all. -/
def firstDay? {α : Type} (s : Schedule) (start : Date) (found : Date → Bool → Option α) :
    Option α :=
  (above s.years (some start.year.toNat)).findSome? fun (y, tight) =>
    (above s.months (if tight then some start.month else none)).findSome? fun (m, tight) =>
      (above s.daysOfMonth (if tight then some start.day else none)).findSome? fun (d, tight) =>
        let date : Date := ⟨y, m, d⟩
        let fires := d ≤ daysIn y m && s.daysOfWeek.contains (date.weekday + 1)
        if fires then found date tight else none

/-- The instants of the first wall clock time, from a given one on, that the schedule matches and
the zone's clocks show. Nothing follows a time before the year zero. -/
def firstFrom? (s : Schedule) (z : Zone) (start : LocalTime) : Option (List Int) :=
  if start.date.year < 0 then none
  else
    s.firstDay? start.date fun date tight =>
      s.firstTime? (if tight then some start else none) fun h m sec =>
        match z.instants (LocalTime.seconds ⟨date, h, m, sec⟩) with
        | [] => none
        | instants => some instants

/-- The instants of the first wall clock time after an instant at which the schedule fires. -/
def nextInstants (s : Schedule) (z : Zone) (after : Int) : List Int :=
  (s.firstFrom? z (z.localTime (after + 1))).getD []

/-- The first instant after another at which the schedule fires. -/
def next? (s : Schedule) (z : Zone) (after : Int) : Option Int := (s.nextInstants z after).head?

/-- The first instants after another at which the schedule fires, where `pending` holds the second
instant of a wall clock time that is shown twice. -/
def times (s : Schedule) (z : Zone) : Nat → Int → List Int → List Int
  | 0, _, _ => []
  | count + 1, _, instant :: pending => instant :: s.times z count instant pending
  | count + 1, after, [] =>
    match s.nextInstants z after with
    | [] => []
    | instant :: pending => instant :: s.times z count instant pending

/-- The first so many instants after another at which the schedule fires. -/
def upcoming (s : Schedule) (z : Zone) (after : Int) (count : Nat) : List Int :=
  s.times z count after []

end FlagAlerts.Schedule
