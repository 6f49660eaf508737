import FlagAlerts.Calendar.Zone
import FlagAlerts.Text.Blank

/-!
# Daylight saving

Most zones set their clocks forward and back again on fixed weekdays of a year. Others change their
offset at instants that no rule gives.
-/

namespace FlagAlerts.Calendar

/-- When clocks are changed in a year: on a weekday's occurrence in a month, the fifth being its
last, at a number of seconds after midnight on the clock so far. -/
structure Turn where
  month : Nat
  week : Nat
  weekday : Nat
  second : Int := 7200
  deriving Repr, DecidableEq, Inhabited

namespace Turn

/-- The day of the month in a year. -/
def dayIn (t : Turn) (year : Int) : Nat :=
  let first := (Date.mk year t.month 1).weekday
  let day := 1 + (t.weekday + 7 - first) % 7 + 7 * (t.week - 1)
  if day ≤ daysIn year t.month then day else day - 7

/-- The wall clock reading of the change in a year. -/
def readingIn (t : Turn) (year : Int) : Int :=
  (Date.mk year t.month (t.dayIn year)).number * daySeconds + t.second

end Turn

/-- Daylight saving: how far clocks are set forward, and from when until when. -/
structure Daylight where
  start : Turn
  finish : Turn
  saved : Int := 3600
  deriving Repr, DecidableEq, Inhabited

namespace Daylight

/-- The changes of a year over a standard offset, in order. -/
def changesIn (d : Daylight) (standard year : Int) : List OffsetChange :=
  let forward := ⟨d.start.readingIn year - standard, standard + d.saved⟩
  let back := ⟨d.finish.readingIn year - standard - d.saved, standard⟩
  if forward.instant ≤ back.instant then [forward, back] else [back, forward]

/-- The changes of the years from one to another. -/
def changes (d : Daylight) (standard : Int) (first last : Nat) : List OffsetChange :=
  (List.range (last + 1 - first)).flatMap fun n => d.changesIn standard ((first + n : Nat) : Int)

end Daylight

/-- The last year whose changes are known; an offset that holds at its end stays for good. -/
def lastKnownYear : Nat := 2099

/-- The first year whose changes are known of most zones. -/
def firstKnownYear : Nat := 2026

namespace Zone

/-- A zone with daylight saving in the years that are known. -/
def yearly (name : String) (standard : Int) (d : Daylight) : Zone :=
  let changes := d.changes standard firstKnownYear lastKnownYear
  let isSavingFirst := changes.head?.any (·.offset == standard)
  ⟨name, if isSavingFirst then standard + d.saved else standard, changes⟩

/-- A zone whose daylight saving follows other rules in each of some runs of years. -/
def inSeasons (name : String) (standard : Int) (seasons : List (Nat × Nat × Daylight)) : Zone :=
  ⟨name, standard, seasons.flatMap fun (first, last, d) => d.changes standard first last⟩

/-- A zone that goes to and fro between two offsets at the instants of a table, in hours. -/
def alternating (name : String) (first second : Int) (table : String) : Zone :=
  let instants := (Text.words table).map fun w => (Text.ofDigits w.toList : Int) * 3600
  ⟨name, first, instants.zipIdx.map fun (instant, n) =>
    ⟨instant, if n % 2 = 0 then second else first⟩⟩

end Zone

end FlagAlerts.Calendar
