import FlagAlerts.Proofs.Calendar.Date

/-!
# The counts of readings

Readings of a wall clock are counted without gaps in their order: every count is that of one
reading, and a later reading has a larger count.
-/

namespace FlagAlerts.Calendar.LocalTime

/-- The date is one of the calendar, and the time is one of the day. -/
structure IsValid (t : LocalTime) : Prop where
  date : t.date.IsValid
  hour : t.hour ≤ 23
  minute : t.minute ≤ 59
  second : t.second ≤ 59

/-- Every count is that of a reading. -/
theorem ofSeconds_spec (n : Int) : (ofSeconds n).IsValid ∧ (ofSeconds n).seconds = n := by
  obtain ⟨date, number⟩ := Date.ofNumber_spec (n / 86400)
  have inside : 0 ≤ n % 86400 ∧ n % 86400 < 86400 := by omega
  constructor
  · refine ⟨date, ?_, ?_, ?_⟩ <;> simp only [ofSeconds, daySeconds] <;> omega
  · simp only [seconds, ofSeconds, daySeconds, number]
    omega

/-- A reading lies on its day. -/
theorem IsValid.seconds_mem_day {t : LocalTime} (h : t.IsValid) :
    t.date.number * 86400 ≤ t.seconds ∧ t.seconds < (t.date.number + 1) * 86400 := by
  have hour := h.hour
  have minute := h.minute
  have second := h.second
  simp only [seconds, daySeconds]
  omega

/-- One reading comes before another in the order of days, hours, minutes and seconds. -/
def IsBefore (t u : LocalTime) : Prop :=
  t.date.IsBefore u.date ∨ t.date = u.date ∧
    (t.hour < u.hour ∨ t.hour = u.hour ∧
      (t.minute < u.minute ∨ t.minute = u.minute ∧ t.second < u.second))

/-- A later reading has a larger count. -/
theorem IsBefore.seconds_lt {t u : LocalTime} (h : t.IsBefore u) (ht : t.IsValid) (hu : u.IsValid) :
    t.seconds < u.seconds := by
  rcases h with earlier | ⟨same, within⟩
  · have order := earlier.number_lt ht.date hu.date
    have last := ht.seconds_mem_day.2
    have first := hu.seconds_mem_day.1
    omega
  · have minute := ht.minute
    have second := ht.second
    simp only [seconds, same, daySeconds]
    omega

theorem isBefore_trichotomy (t u : LocalTime) : t.IsBefore u ∨ t = u ∨ u.IsBefore t := by
  obtain ⟨date, hour, minute, second⟩ := t
  obtain ⟨date', hour', minute', second'⟩ := u
  simp only [IsBefore, mk.injEq]
  rcases Date.isBefore_trichotomy date date' with before | rfl | after
  · exact .inl (.inl before)
  · simp only [true_and]
    omega
  · exact .inr (.inr (.inl after))

/-- Counts are in the order of readings. -/
theorem IsValid.seconds_le_iff {t u : LocalTime} (ht : t.IsValid) (hu : u.IsValid) :
    t.seconds ≤ u.seconds ↔ t.IsBefore u ∨ t = u := by
  constructor
  · intro le
    rcases isBefore_trichotomy t u with before | same | after
    · exact .inl before
    · exact .inr same
    · have := after.seconds_lt hu ht
      omega
  · rintro (before | rfl)
    · exact Int.le_of_lt (before.seconds_lt ht hu)
    · exact Int.le_refl _

/-- A reading is found by its count. -/
theorem IsValid.ofSeconds_seconds {t : LocalTime} (h : t.IsValid) : ofSeconds t.seconds = t := by
  have hour := h.hour
  have minute := h.minute
  have second := h.second
  have day : t.seconds / 86400 = t.date.number := by
    have lies := h.seconds_mem_day
    omega
  have rest : (t.seconds % 86400).toNat = t.hour * 3600 + t.minute * 60 + t.second := by
    simp only [seconds, daySeconds]
    omega
  simp only [ofSeconds, daySeconds, day, rest, h.date.ofNumber_number]
  obtain ⟨date, hour, minute, second⟩ := t
  simp only [mk.injEq, true_and] at *
  omega

/-- A reading after the year zero is followed only by others. -/
theorem year_nonneg_of_le {r r' : Int} (order : r ≤ r') (h : 0 ≤ (ofSeconds r).date.year) :
    0 ≤ (ofSeconds r').date.year := by
  obtain ⟨valid, count⟩ := ofSeconds_spec r
  obtain ⟨valid', count'⟩ := ofSeconds_spec r'
  by_contra negative
  have back : (ofSeconds r').IsBefore (ofSeconds r) := .inl (.inl (by omega))
  have less := back.seconds_lt valid' valid
  omega

end FlagAlerts.Calendar.LocalTime
