import FlagAlerts.Calendar.Date

/-!
# Time zones

A zone's wall clocks are ahead of Unix time by an offset, which changes at some instants. So an
instant has one reading, and a reading belongs to no instant when clocks are set forward, and to two
when they are set back.
-/

namespace FlagAlerts.Calendar

/-- An instant from which on an offset holds. -/
structure OffsetChange where
  instant : Int
  offset : Int
  deriving Repr, DecidableEq, Inhabited

/-- A time zone: the offset before all changes, and the changes in order. -/
structure Zone where
  name : String
  first : Int
  changes : List OffsetChange := []
  deriving Repr, DecidableEq, Inhabited

namespace Zone

/-- The offset at an instant: that of the last change up to it. -/
def offsetAt (z : Zone) (instant : Int) : Int :=
  z.changes.foldl (fun offset c => if c.instant ≤ instant then c.offset else offset) z.first

/-- The offsets that the zone has at some time, each once. -/
def offsets (z : Zone) : List Int := (z.first :: z.changes.map (·.offset)).eraseDups

/-- The reading of the zone's wall clocks at an instant, in seconds. -/
def reading (z : Zone) (instant : Int) : Int := instant + z.offsetAt instant

/-- The wall clock time at an instant. -/
def localTime (z : Zone) (instant : Int) : LocalTime := .ofSeconds (z.reading instant)

/-- The instants at which the zone's wall clocks show a reading, in order. -/
def instants (z : Zone) (reading : Int) : List Int :=
  ((z.offsets.map (reading - ·)).filter (z.reading · == reading)).mergeSort (· ≤ ·)

/-- The text of an instant: the wall clock time and its offset. -/
def text (z : Zone) (instant : Int) : String :=
  (z.localTime instant).text ++ offsetText (z.offsetAt instant)

end Zone

end FlagAlerts.Calendar
