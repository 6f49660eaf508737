import FlagAlerts.Calendar.Zone

/-!
# Months

A month of a year, the month before it, and the key under which a month's usage is kept: the year
with at least four digits and the month with two.
-/

namespace FlagAlerts.Calendar

open FlagAlerts.Text

/-- A month of a year, counted from one. -/
structure Month where
  year : Int
  month : Nat
  deriving Repr, DecidableEq, Inhabited

namespace Month

/-- The month that the wall clocks of a zone show at an instant. -/
def ofInstant (z : Zone) (instant : Int) : Month :=
  let d := (z.localTime instant).date
  ⟨d.year, d.month⟩

/-- The month before. -/
def previous (m : Month) : Month :=
  if m.month = 1 then ⟨m.year - 1, 12⟩ else ⟨m.year, m.month - 1⟩

/-- The month before the one in which an instant lies. -/
def lastBefore (z : Zone) (instant : Int) : Month := (ofInstant z instant).previous

/-- The key of a month. -/
def key (m : Month) : String := paddedInt 4 m.year ++ padded 2 m.month

end Month

end FlagAlerts.Calendar
