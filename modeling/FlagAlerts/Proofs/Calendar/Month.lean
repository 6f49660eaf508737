import FlagAlerts.Calendar.Month
import FlagAlerts.Proofs.Calendar.LocalTime
import FlagAlerts.Proofs.Text.Decimal

/-!
# Months and their keys

A month has the days from its first one up to the first one of the next month, and the day before them
lies in the month before. A key tells its month, and keys of years with no more than four digits are in
the order of their months.
-/

namespace FlagAlerts.Calendar.Month

open FlagAlerts.Text

/-- The month is one of twelve. -/
structure IsValid (m : Month) : Prop where
  month_pos : 1 ≤ m.month
  month_le : m.month ≤ 12

/-- The month after. -/
def next (m : Month) : Month := if m.month = 12 then ⟨m.year + 1, 1⟩ else ⟨m.year, m.month + 1⟩

/-- One month comes before another. -/
def IsBefore (m m' : Month) : Prop := m.year < m'.year ∨ m.year = m'.year ∧ m.month < m'.month

/-- The number of the first day of a month. -/
def firstDay (m : Month) : Int := (Date.mk m.year m.month 1).number

/-- The day of a number lies in a month. -/
def Contains (m : Month) (day : Int) : Prop := m.firstDay ≤ day ∧ day < m.next.firstDay

/-- So many months, one after another. -/
def series (m : Month) : Nat → List Month
  | 0 => []
  | n + 1 => m :: series m.next n

variable {m m' : Month}

/-! ## One month after another -/

/-- Clocks show a month of the calendar. -/
theorem isValid_ofInstant (z : Zone) (instant : Int) : (ofInstant z instant).IsValid := by
  have valid : (z.localTime instant).date.IsValid :=
    (LocalTime.ofSeconds_spec (z.reading instant)).1.date
  constructor
  · simp only [ofInstant]
    exact valid.month_pos
  · simp only [ofInstant]
    exact valid.month_le

theorem IsValid.previous (h : m.IsValid) : m.previous.IsValid := by
  obtain ⟨least, most⟩ := h
  unfold Month.previous
  split <;> constructor <;> simp only <;> omega

theorem IsValid.next (h : m.IsValid) : m.next.IsValid := by
  obtain ⟨least, most⟩ := h
  unfold Month.next
  split <;> constructor <;> simp only <;> omega

/-- The month after the month before is the month itself. -/
theorem IsValid.next_previous (h : m.IsValid) : m.previous.next = m := by
  obtain ⟨year, month⟩ := m
  obtain ⟨least, most⟩ := h
  unfold Month.previous Month.next
  by_cases january : month = 1
  · simp [january]
  · have inside : ¬month - 1 = 12 := by
      simp only at most
      omega
    have back : month - 1 + 1 = month := by
      simp only at least
      omega
    simp [january, inside, back]

/-- The month before the month after is the month itself. -/
theorem IsValid.previous_next (h : m.IsValid) : m.next.previous = m := by
  obtain ⟨year, month⟩ := m
  obtain ⟨least, -⟩ := h
  unfold Month.previous Month.next
  by_cases december : month = 12
  · simp [december]
  · have later : ¬month = 0 := by
      simp only at least
      omega
    simp [december, later]

theorem IsValid.previous_inj (h : m.IsValid) (h' : m'.IsValid) :
    m.previous = m'.previous ↔ m = m' := by
  constructor
  · intro same
    rw [← h.next_previous, same, h'.next_previous]
  · rintro rfl
    rfl

/-- Months come before each other just as the months before them do. -/
theorem IsValid.previous_isBefore (h : m.IsValid) (h' : m'.IsValid) :
    m.previous.IsBefore m'.previous ↔ m.IsBefore m' := by
  obtain ⟨least, most⟩ := h
  obtain ⟨least', most'⟩ := h'
  unfold IsBefore Month.previous
  split <;> split <;> simp only <;> omega

theorem IsBefore.trans {m'' : Month} (first : m.IsBefore m') (second : m'.IsBefore m'') :
    m.IsBefore m'' := by
  unfold IsBefore at *
  omega

theorem IsValid.isBefore_next (h : m.IsValid) : m.IsBefore m.next := by
  obtain ⟨least, most⟩ := h
  unfold IsBefore Month.next
  split
  · simp only
    omega
  · exact .inr ⟨rfl, Nat.lt_succ_self m.month⟩

/-- Months that follow one another come in order. -/
theorem IsValid.series_sorted (h : m.IsValid) (n : Nat) :
    (m.series n).Pairwise IsBefore ∧ ∀ later ∈ m.series n, later.IsValid ∧ (later = m ∨ m.IsBefore later) := by
  induction n generalizing m with
  | zero => simp [series]
  | succ n ih =>
    obtain ⟨sorted, members⟩ := ih h.next
    have after : ∀ later ∈ m.next.series n, m.IsBefore later := by
      intro later member
      rcases (members later member).2 with rfl | more
      · exact h.isBefore_next
      · exact h.isBefore_next.trans more
    refine ⟨List.pairwise_cons.2 ⟨after, sorted⟩, ?_⟩
    intro later member
    rcases List.mem_cons.1 member with rfl | member
    · exact ⟨h, .inl rfl⟩
    · exact ⟨(members later member).1, .inr (after later member)⟩

/-! ## The days of a month -/

theorem daysIn_pos (year : Int) (month : Nat) : 0 < daysIn year month := by
  unfold daysIn
  split <;> (try split) <;> decide

/-- The days of a month come before the next one. -/
theorem IsValid.firstDay_next (h : m.IsValid) :
    m.next.firstDay = m.firstDay + daysIn m.year m.month := by
  obtain ⟨year, month⟩ := m
  unfold Month.next
  by_cases december : month = 12
  · subst december
    have ends := yearStart_succ year
    have whole := daysBefore_thirteen year
    have step : daysBefore year 13 = daysBefore year 12 + daysIn year 12 :=
      daysBefore_succ year (by decide)
    have none : daysBefore (year + 1) 1 = 0 := rfl
    rw [if_pos rfl]
    simp only [firstDay, Date.number]
    omega
  · have least : 1 ≤ month := h.month_pos
    have step := daysBefore_succ year least
    rw [if_neg december]
    simp only [firstDay, Date.number]
    omega

/-- Clocks show the month in which the day lies. -/
theorem contains_ofInstant (z : Zone) (instant : Int) :
    (ofInstant z instant).Contains (z.reading instant / daySeconds) := by
  have days := (isValid_ofInstant z instant).firstDay_next
  obtain ⟨valid, number⟩ := Date.ofNumber_spec (z.reading instant / daySeconds)
  have first := valid.day_pos
  have last := valid.day_le
  unfold Contains
  rw [days]
  simp only [ofInstant, Zone.localTime, LocalTime.ofSeconds, firstDay, Date.number] at number ⊢
  omega

/-- The day before the first one of a month lies in the month before. -/
theorem IsValid.previous_contains (h : m.IsValid) : m.previous.Contains (m.firstDay - 1) := by
  have days := h.previous.firstDay_next
  have some := daysIn_pos m.previous.year m.previous.month
  unfold Contains
  rw [h.next_previous] at days ⊢
  omega

/-! ## Keys -/

theorem ofDigits_joined (width year : Nat) {month : Nat} (small : month ≤ 12) :
    ofDigits (paddedDigits width year ++ paddedDigits 2 month) = 100 * year + month := by
  have two : (paddedDigits 2 month).length = 2 := length_paddedDigits (by decide) (by omega)
  rw [ofDigits_append, two, ofDigits_paddedDigits, ofDigits_paddedDigits]
  rfl

theorem isDigit_of_mem_joined (width year month : Nat) :
    ∀ c ∈ paddedDigits width year ++ paddedDigits 2 month, c.isDigit = true :=
  List.forall_mem_append.2 ⟨isDigit_of_mem_paddedDigits, isDigit_of_mem_paddedDigits⟩

theorem toList_key_ofNat (year month : Nat) :
    (key ⟨.ofNat year, month⟩).toList = paddedDigits 4 year ++ paddedDigits 2 month := by
  simp [key, paddedInt, padded]

theorem toList_key_negSucc (year month : Nat) :
    (key ⟨.negSucc year, month⟩).toList =
      '-' :: (paddedDigits 3 (year + 1) ++ paddedDigits 2 month) := by
  simp [key, paddedInt, padded]

/-- A key tells its month. -/
theorem IsValid.key_inj (h : m.IsValid) (h' : m'.IsValid) : m.key = m'.key ↔ m = m' := by
  refine ⟨fun same => ?_, fun same => congrArg key same⟩
  obtain ⟨year, month⟩ := m
  obtain ⟨year', month'⟩ := m'
  have small : month ≤ 12 := h.month_le
  have small' : month' ≤ 12 := h'.month_le
  have chars := congrArg String.toList same
  -- a sign is no digit
  have unsigned (width year month : Nat) (rest : List Char) :
      '-' :: rest ≠ paddedDigits width year ++ paddedDigits 2 month := by
    intro signed
    have digit := isDigit_of_mem_joined width year month '-' (signed ▸ List.mem_cons_self)
    exact absurd digit (by decide)
  cases year with
  | ofNat year =>
    cases year' with
    | ofNat year' =>
      rw [toList_key_ofNat, toList_key_ofNat] at chars
      have value := congrArg ofDigits chars
      rw [ofDigits_joined 4 year small, ofDigits_joined 4 year' small'] at value
      obtain ⟨rfl, rfl⟩ : year = year' ∧ month = month' := by omega
      rfl
    | negSucc year' =>
      rw [toList_key_ofNat, toList_key_negSucc] at chars
      exact absurd chars.symm (unsigned 4 year month _)
  | negSucc year =>
    cases year' with
    | ofNat year' =>
      rw [toList_key_ofNat, toList_key_negSucc] at chars
      exact absurd chars (unsigned 4 year' month' _)
    | negSucc year' =>
      rw [toList_key_negSucc, toList_key_negSucc] at chars
      have value := congrArg ofDigits (List.cons.inj chars).2
      rw [ofDigits_joined 3 (year + 1) small, ofDigits_joined 3 (year' + 1) small'] at value
      obtain ⟨rfl, rfl⟩ : year = year' ∧ month = month' := by omega
      rfl

/-- Keys of years with no more than four digits are in the order of their months. -/
theorem IsValid.key_lt_iff (h : m.IsValid) (h' : m'.IsValid) (years : 0 ≤ m.year ∧ m.year ≤ 9999)
    (years' : 0 ≤ m'.year ∧ m'.year ≤ 9999) : m.key < m'.key ↔ m.IsBefore m' := by
  obtain ⟨year, month⟩ := m
  obtain ⟨year', month'⟩ := m'
  have small : month ≤ 12 := h.month_le
  have small' : month' ≤ 12 := h'.month_le
  obtain ⟨y, rfl⟩ := Int.eq_ofNat_of_zero_le years.1
  obtain ⟨y', rfl⟩ := Int.eq_ofNat_of_zero_le years'.1
  have length (y month : Nat) (fits : (y : Int) ≤ 9999) (small : month ≤ 12) :
      (paddedDigits 4 y ++ paddedDigits 2 month).length = 6 := by
    rw [List.length_append, length_paddedDigits (by decide) (by omega),
      length_paddedDigits (by decide) (by omega)]
  have lists := (length y month years.2 small).trans (length y' month' years'.2 small').symm
  have first := toList_key_ofNat y month
  have second := toList_key_ofNat y' month'
  rw [Int.ofNat_eq_natCast] at first second
  rw [String.lt_iff, first, second, lt_iff_ofDigits_lt lists (isDigit_of_mem_joined 4 y month)
    (isDigit_of_mem_joined 4 y' month'), ofDigits_joined 4 y small, ofDigits_joined 4 y' small']
  simp only [IsBefore]
  omega

end FlagAlerts.Calendar.Month
