import FlagAlerts.Calendar.Date
import Mathlib.Tactic.IntervalCases

/-!
# The numbers of days

The days of the calendar are numbered without gaps, in the order of years, months and days: every
number is that of one day, and a later day has a larger number.
-/

namespace FlagAlerts.Calendar

variable {y y' : Int} {m m' day day' : Nat}

/-- The days that a year has more than 365. -/
def leapDay (y : Int) : Nat := if isLeap y then 1 else 0

/-- The days of a year come before the next one. -/
theorem yearStart_succ (y : Int) : yearStart (y + 1) = yearStart y + 365 + leapDay y := by
  cases leap : isLeap y with
  | true =>
    have divides : y % 4 = 0 ∧ (y % 100 ≠ 0 ∨ y % 400 = 0) := by simpa [isLeap] using leap
    simp only [yearStart, leapDaysBefore, leapDay, leap, if_true]
    omega
  | false =>
    have misses : y % 4 = 0 → y % 100 = 0 ∧ y % 400 ≠ 0 := by simpa [isLeap] using leap
    simp only [yearStart, leapDaysBefore, leapDay, leap, Bool.false_eq_true, if_false]
    omega

theorem yearStart_mono (h : y ≤ y') : yearStart y ≤ yearStart y' := by
  simp only [yearStart, leapDaysBefore]
  omega

/-- A month ends where the next one begins. -/
theorem daysBefore_succ (y : Int) (least : 1 ≤ m) :
    daysBefore y (m + 1) = daysBefore y m + daysIn y m := by
  have months : List.range m = List.range (m - 1) ++ [m - 1] := by
    rw [← List.range_succ, Nat.succ_eq_add_one, Nat.sub_add_cancel least]
  simp only [daysBefore, Nat.add_sub_cancel, months, List.map_append, total_append, List.map_cons,
    List.map_nil, total, Nat.sub_add_cancel least, Nat.add_zero]

theorem daysBefore_mono (y : Int) (least : 1 ≤ m) (order : m ≤ m') :
    daysBefore y m ≤ daysBefore y m' := by
  induction m', order using Nat.le_induction with
  | base => exact Nat.le_refl _
  | succ k before ih =>
    have step := daysBefore_succ y (m := k) (by omega)
    omega

/-- The months of a year make up its days. -/
theorem daysBefore_thirteen (y : Int) : daysBefore y 13 = 365 + leapDay y := by
  cases leap : isLeap y <;> simp [daysBefore, leapDay, leap, List.range, List.range.loop, total, daysIn]

namespace Date

/-- The month and the day are ones of the calendar. -/
structure IsValid (d : Date) : Prop where
  month_pos : 1 ≤ d.month
  month_le : d.month ≤ 12
  day_pos : 1 ≤ d.day
  day_le : d.day ≤ daysIn d.year d.month

/-- A day lies in its year. -/
theorem IsValid.number_mem_year {d : Date} (h : d.IsValid) :
    yearStart d.year ≤ d.number ∧ d.number < yearStart (d.year + 1) := by
  have whole := daysBefore_thirteen d.year
  have next := daysBefore_succ d.year h.month_pos
  have inside : daysBefore d.year (d.month + 1) ≤ daysBefore d.year 13 :=
    daysBefore_mono d.year (Nat.le_add_left 1 d.month) (Nat.succ_le_succ h.month_le)
  have step := yearStart_succ d.year
  have first := h.day_pos
  have last := h.day_le
  simp only [number]
  omega

/-- One day comes before another in the order of years, months and days. -/
def IsBefore (d e : Date) : Prop :=
  d.year < e.year ∨ d.year = e.year ∧ (d.month < e.month ∨ d.month = e.month ∧ d.day < e.day)

/-- A later day has a larger number. -/
theorem IsBefore.number_lt {d e : Date} (h : d.IsBefore e) (hd : d.IsValid) (he : e.IsValid) :
    d.number < e.number := by
  obtain ⟨year⟩ | ⟨year, month | ⟨month, day⟩⟩ := h
  · have last := hd.number_mem_year.2
    have first := he.number_mem_year.1
    have order := yearStart_mono (Int.add_one_le_of_lt year)
    omega
  · have next := daysBefore_succ d.year hd.month_pos
    have order := daysBefore_mono d.year (Nat.le_add_left 1 d.month) month
    have last := hd.day_le
    have first := hd.day_pos
    simp only [number, ← year]
    omega
  · have first := hd.day_pos
    simp only [number, year, month]
    omega

theorem isBefore_trichotomy (d e : Date) : d.IsBefore e ∨ d = e ∨ e.IsBefore d := by
  obtain ⟨y, m, day⟩ := d
  obtain ⟨y', m', day'⟩ := e
  simp only [IsBefore, Date.mk.injEq]
  omega

/-- Days with one number are the same. -/
theorem IsValid.eq_of_number_eq {d e : Date} (hd : d.IsValid) (he : e.IsValid)
    (h : d.number = e.number) : d = e := by
  rcases isBefore_trichotomy d e with before | same | after
  · have := before.number_lt hd he
    omega
  · exact same
  · have := after.number_lt he hd
    omega

/-- The search for a month among the first ones finds the last that begins up to a day. -/
theorem month_search (y : Int) (day k : Nat) :
    let found := ((List.range k).map (· + 2)).foldl
      (fun found m => if daysBefore y m ≤ day then m else found) 1
    1 ≤ found ∧ found ≤ k + 1 ∧ daysBefore y found ≤ day ∧
      (found ≤ k → day < daysBefore y (found + 1)) := by
  induction k with
  | zero => simp [daysBefore, total]
  | succ k ih =>
    obtain ⟨least, greatest, begun, ahead⟩ := ih
    rw [List.range_succ, List.map_append, List.foldl_append]
    simp only [List.map_cons, List.map_nil, List.foldl_cons, List.foldl_nil]
    generalize ((List.range k).map (· + 2)).foldl
      (fun found m => if daysBefore y m ≤ day then m else found) 1 = found at *
    split
    next reached => exact ⟨by omega, by omega, reached, by omega⟩
    next missed =>
      refine ⟨least, by omega, begun, fun inside => ?_⟩
      rcases Nat.lt_or_ge k found with last | earlier
      · obtain rfl : found = k + 1 := by omega
        exact Nat.lt_of_not_le missed
      · exact ahead earlier

/-- The day of the year is found in the month in which it lies. -/
theorem ofDayOfYear_spec (y : Int) {day : Nat} (h : day < 365 + leapDay y) :
    (ofDayOfYear y day).IsValid ∧ (ofDayOfYear y day).year = y ∧
      (ofDayOfYear y day).number = yearStart y + day := by
  obtain ⟨least, greatest, begun, ahead⟩ := month_search y day 11
  simp only [ofDayOfYear]
  generalize ((List.range 11).map (· + 2)).foldl
    (fun found m => if daysBefore y m ≤ day then m else found) 1 = month at *
  have next := daysBefore_succ y least
  have inside : day < daysBefore y (month + 1) := by
    rcases Nat.lt_or_ge 11 month with december | earlier
    · obtain rfl : month = 12 := by omega
      rw [daysBefore_thirteen]
      exact h
    · exact ahead earlier
  refine ⟨⟨least, greatest, Nat.le_add_left 1 _, ?_⟩, trivial, ?_⟩
  · simp only
    omega
  · simp only [number]
    omega

/-- The year of a number is the one in which it lies. -/
theorem year_search (n : Int) :
    let guess := 1970 + n * 400 / 146097
    yearStart (guess - 1) ≤ n ∧ n < yearStart (guess + 2) := by
  simp only [yearStart, leapDaysBefore]
  omega

/-- Every number is that of a day. -/
theorem ofNumber_spec (n : Int) : (ofNumber n).IsValid ∧ (ofNumber n).number = n := by
  obtain ⟨early, late⟩ := year_search n
  simp only [ofNumber]
  generalize 1970 + n * 400 / 146097 = guess at *
  generalize chosen : (if n < yearStart guess then guess - 1
    else if yearStart (guess + 1) ≤ n then guess + 1 else guess) = year
  have lies : yearStart year ≤ n ∧ n < yearStart (year + 1) := by
    have wide : guess + 1 + 1 = guess + 2 := by omega
    subst chosen
    split
    · rw [Int.sub_add_cancel]
      omega
    · split
      · rw [wide]
        omega
      · omega
  have step := yearStart_succ year
  have inside : (n - yearStart year).toNat < 365 + leapDay year := by omega
  obtain ⟨valid, -, number⟩ := ofDayOfYear_spec year inside
  exact ⟨valid, by rw [number]; omega⟩

/-- A day is found by its number. -/
theorem IsValid.ofNumber_number {d : Date} (h : d.IsValid) : ofNumber d.number = d := by
  obtain ⟨valid, number⟩ := ofNumber_spec d.number
  exact valid.eq_of_number_eq h number

end Date

end FlagAlerts.Calendar
