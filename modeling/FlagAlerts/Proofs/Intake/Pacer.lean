import FlagAlerts.Intake.Work

/-!
# A gate that paces

What the gate for the rate does by itself, on a clock as fine as one likes: one at a time has the
turn, sleeps until the next slot unless the slot has come, and leaves the slot after it one interval
later. Whoever sleeps is woken at the first whole millisecond that is not before the slot, and may
give up before. Times are in nanoseconds.

Slots are an interval apart, but whoever is woken is late by less than a millisecond, and the next one
may be less late. So waits end an interval apart up to a millisecond, and not always more than that.
-/

namespace FlagAlerts

/-- A gate that paces. -/
structure Pacer where
  /-- The time from one slot to the next. -/
  interval : Nat
  now : Nat
  /-- The beginning of the next slot. -/
  next : Nat
  /-- Whether someone has the turn and sleeps until the next slot. -/
  isHeld : Bool := false
  deriving Repr, DecidableEq

/-- What happens to a gate that paces. -/
inductive PacerAction where
  /-- Someone takes the turn. -/
  | take
  /-- Whoever sleeps goes on. -/
  | wake
  /-- Whoever sleeps gives up. -/
  | drop
  | pass (ns : Nat)
  deriving Repr, DecidableEq

namespace Pacer

/-- The end of a wait: the beginning of its slot, and the instant at which it ends. -/
structure Mark where
  slot : Nat
  instant : Nat
  deriving Repr, DecidableEq

/-- The first whole millisecond that is not before an instant. -/
def ceil (ns : Nat) : Nat := Intake.ceilMs ns * 1000000

/-- The gate after an action, with the wait that ends, if one does; none if the action is not
possible. -/
def step? (p : Pacer) : PacerAction → Option (Pacer × List Mark)
  | .take =>
    if p.isHeld then none
    else if p.now < p.next then some ({ p with isHeld := true }, [])
    else some ({ p with next := p.now + p.interval }, [⟨p.now, p.now⟩])
  | .wake =>
    if p.isHeld && decide (ceil p.next ≤ p.now) then
      some ({ p with isHeld := false, next := p.next + p.interval }, [⟨p.next, p.now⟩])
    else none
  | .drop => if p.isHeld then some ({ p with isHeld := false }, []) else none
  | .pass ns =>
    if p.isHeld && decide (ceil p.next < p.now + ns) then none
    else some ({ p with now := p.now + ns }, [])

/-- Whether an action fits a clock that goes on by ticks. -/
def PacerAction.Ticks (tick : Nat) : PacerAction → Prop
  | .pass ns => tick ∣ ns
  | _ => True

/-- The courses of a gate, on a clock that goes on by ticks, with the waits that have ended. -/
inductive Course (tick interval : Nat) : List Mark → Pacer → Prop where
  | start {now : Nat} (whole : tick ∣ now) :
      Course tick interval [] { interval := interval, now := now, next := now }
  | step {marks ended : List Mark} {p q : Pacer} (a : PacerAction)
      (before : Course tick interval marks p) (ticks : PacerAction.Ticks tick a)
      (next : p.step? a = some (q, ended)) : Course tick interval (marks ++ ended) q

/-- Waits that end an interval apart. -/
def Spaced (interval : Nat) (marks : List Mark) : Prop :=
  marks.Pairwise fun a b => a.instant + interval ≤ b.instant

/-- What a gate can do, with all that has to be true before. -/
inductive Step (p : Pacer) : PacerAction → Pacer → List Mark → Prop where
  /-- The slot has not come yet. -/
  | sleeps (free : p.isHeld = false) (early : p.now < p.next) :
      Step p .take { p with isHeld := true } []
  /-- The slot has come. -/
  | goesOn (free : p.isHeld = false) (due : p.next ≤ p.now) :
      Step p .take { p with next := p.now + p.interval } [⟨p.now, p.now⟩]
  | wakes (held : p.isHeld = true) (due : ceil p.next ≤ p.now) :
      Step p .wake { p with isHeld := false, next := p.next + p.interval } [⟨p.next, p.now⟩]
  | givesUp (held : p.isHeld = true) : Step p .drop { p with isHeld := false } []
  | passes {ns : Nat} (inTime : p.isHeld = true → p.now + ns ≤ ceil p.next) :
      Step p (.pass ns) { p with now := p.now + ns } []

theorem step_of_eq_some {p q : Pacer} {a : PacerAction} {ended : List Mark}
    (next : p.step? a = some (q, ended)) : Step p a q ended := by
  cases a with
  | take =>
    simp only [step?] at next
    split at next
    · cases next
    next free =>
      rw [Bool.not_eq_true] at free
      split at next <;> cases next
      next early => exact .sleeps free early
      next due => exact .goesOn free (Nat.not_lt.1 due)
  | wake =>
    simp only [step?, Bool.and_eq_true, decide_eq_true_iff] at next
    split at next <;> cases next
    next woken => exact .wakes woken.1 woken.2
  | drop =>
    simp only [step?] at next
    split at next <;> cases next
    next held => exact .givesUp held
  | pass ns =>
    simp only [step?] at next
    split at next <;> cases next
    next inTime =>
      refine .passes fun held => ?_
      simpa [held] using inTime

theorem Step.eq_some {p q : Pacer} {a : PacerAction} {ended : List Mark} (step : Step p a q ended) :
    p.step? a = some (q, ended) := by
  cases step with
  | sleeps free early => simp [step?, free, early]
  | goesOn free due => simp [step?, free, due]
  | wakes held due => simp [step?, held, due]
  | givesUp held => simp [step?, held]
  | @passes ns inTime =>
    have notBeyond : ¬(p.isHeld && decide (ceil p.next < p.now + ns)) = true := by
      simpa using inTime
    exact if_neg notBeyond

/-! ## Whole milliseconds -/

theorem le_ceil (ns : Nat) : ns ≤ ceil ns := by
  unfold ceil Intake.ceilMs
  omega

theorem ceil_lt (ns : Nat) : ceil ns < ns + 1000000 := by
  unfold ceil Intake.ceilMs
  omega

theorem dvd_ceil (ns : Nat) : 1000000 ∣ ceil ns := Nat.dvd_mul_left _ _

theorem ceil_of_dvd {ns : Nat} (whole : 1000000 ∣ ns) : ceil ns = ns := by
  unfold ceil Intake.ceilMs
  omega

/-! ## What a gate keeps -/

/-- What is true of a gate after the waits that have ended: slots are an interval apart, a wait ends
with the beginning of its slot or with the millisecond after it, and nobody sleeps for longer. -/
structure Kept (tick interval : Nat) (marks : List Mark) (p : Pacer) : Prop where
  pace : p.interval = interval
  clock : tick ∣ p.now
  slots : marks.Pairwise fun a b => a.slot + interval ≤ b.slot
  ends : ∀ m ∈ marks, m.instant = m.slot ∨ m.instant = ceil m.slot
  ahead : ∀ m ∈ marks, m.slot + interval ≤ p.next
  order : marks.Pairwise fun a b => a.instant ≤ b.instant
  past : ∀ m ∈ marks, m.instant ≤ p.now
  sleeps : p.isHeld = true → p.now ≤ ceil p.next

section Courses

variable {tick interval : Nat} {marks ended : List Mark} {p q : Pacer}

/-- A wait ends, in the next slot or later. -/
theorem Kept.concat (kept : Kept tick interval marks p) {m : Mark} (present : m.instant = p.now)
    (later : p.next ≤ m.slot) (ends : m.instant = m.slot ∨ m.instant = ceil m.slot) :
    Kept tick interval (marks ++ [m])
      { p with next := m.slot + p.interval, isHeld := false } := by
  have pace := kept.pace
  constructor
  case pace => exact pace
  case clock => exact kept.clock
  case slots =>
    refine List.pairwise_append.2 ⟨kept.slots, List.pairwise_singleton _ _, ?_⟩
    intro a ha b hb
    obtain rfl := List.mem_singleton.1 hb
    exact Nat.le_trans (kept.ahead a ha) later
  case ends =>
    intro b hb
    rcases List.mem_append.1 hb with old | new
    · exact kept.ends b old
    · obtain rfl := List.mem_singleton.1 new
      exact ends
  case ahead =>
    intro b hb
    show b.slot + interval ≤ m.slot + p.interval
    rcases List.mem_append.1 hb with old | new
    · have := kept.ahead b old
      omega
    · obtain rfl := List.mem_singleton.1 new
      exact Nat.le_of_eq (by rw [pace])
  case order =>
    refine List.pairwise_append.2 ⟨kept.order, List.pairwise_singleton _ _, ?_⟩
    intro a ha b hb
    obtain rfl := List.mem_singleton.1 hb
    exact present ▸ kept.past a ha
  case past =>
    intro b hb
    rcases List.mem_append.1 hb with old | new
    · exact kept.past b old
    · obtain rfl := List.mem_singleton.1 new
      exact Nat.le_of_eq present
  case sleeps => exact fun held => by cases held

theorem Kept.step {a : PacerAction} (kept : Kept tick interval marks p)
    (ticks : PacerAction.Ticks tick a) (step : Step p a q ended) :
    Kept tick interval (marks ++ ended) q := by
  cases step with
  | sleeps free early =>
    rw [List.append_nil]
    exact { kept with sleeps := fun _ => Nat.le_trans (Nat.le_of_lt early) (le_ceil p.next) }
  | goesOn free due =>
    have ended := kept.concat (m := ⟨p.now, p.now⟩) rfl due (.inl rfl)
    rwa [← free] at ended
  | wakes held due =>
    have onTime : p.now = ceil p.next := Nat.le_antisymm (kept.sleeps held) due
    exact kept.concat (m := ⟨p.next, p.now⟩) rfl (Nat.le_refl _) (.inr onTime)
  | givesUp held =>
    rw [List.append_nil]
    exact { kept with sleeps := fun held => by cases held }
  | passes inTime =>
    rw [List.append_nil]
    exact { kept with
      clock := Nat.dvd_add kept.clock ticks
      past := fun m hm => Nat.le_trans (kept.past m hm) (Nat.le_add_right _ _)
      sleeps := inTime }

theorem Course.kept (course : Course tick interval marks p) : Kept tick interval marks p := by
  induction course with
  | start whole =>
    constructor
    case pace => rfl
    case clock => exact whole
    case slots | order => exact .nil
    case ends | ahead | past => simp
    case sleeps => exact fun held => by cases held
  | step a before ticks next ih => exact ih.step ticks (step_of_eq_some next)

/-- Waits end an interval apart up to a millisecond. -/
theorem Kept.nearly (kept : Kept tick interval marks p) :
    marks.Pairwise fun a b => a.instant + interval < b.instant + 1000000 := by
  refine kept.slots.imp_of_mem fun {a b} ha hb apart => ?_
  have notLate : a.instant < a.slot + 1000000 := by
    have := ceil_lt a.slot
    rcases kept.ends a ha with onTime | woken <;> omega
  have notEarly : b.slot ≤ b.instant := by
    have := le_ceil b.slot
    rcases kept.ends b hb with onTime | woken <;> omega
  omega

/-- A wait that is not late is followed by others in no less than the interval. -/
theorem Kept.onward (kept : Kept tick interval marks p) :
    marks.Pairwise fun a b => a.instant = a.slot → a.instant + interval ≤ b.instant := by
  refine kept.slots.imp_of_mem fun {a b} ha hb apart onTime => ?_
  have := le_ceil b.slot
  rcases kept.ends b hb with onTime | woken <;> omega

/-- If the clock and the interval are in whole milliseconds, so are the slots. -/
theorem Course.whole (course : Course tick interval marks p) (clock : 1000000 ∣ tick)
    (even : 1000000 ∣ interval) : 1000000 ∣ p.next ∧ ∀ m ∈ marks, m.instant = m.slot := by
  induction course with
  | start whole => exact ⟨Nat.dvd_trans clock whole, by simp⟩
  | @step marks ended p q a before ticks next ih =>
    obtain ⟨slot, onTime⟩ := ih
    have kept := before.kept
    have present : 1000000 ∣ p.now := Nat.dvd_trans clock kept.clock
    have pace : 1000000 ∣ p.interval := by rwa [kept.pace]
    cases step_of_eq_some next with
    | sleeps | givesUp | passes => simpa using ⟨slot, onTime⟩
    | goesOn =>
      refine ⟨Nat.dvd_add present pace, ?_⟩
      simpa [or_imp, forall_and] using onTime
    | wakes held due =>
      have rests := kept.sleeps held
      rw [ceil_of_dvd slot] at due rests
      refine ⟨Nat.dvd_add slot pace, ?_⟩
      simpa [or_imp, forall_and, Nat.le_antisymm rests due] using onTime

/-- Waits that are not late end an interval apart. -/
theorem Course.spaced_of_whole (course : Course 1000000 interval marks p)
    (even : 1000000 ∣ interval) : Spaced interval marks := by
  obtain ⟨-, onTime⟩ := course.whole (Nat.dvd_refl _) even
  exact course.kept.onward.imp_of_mem fun ha _ onward => onward (onTime _ ha)

/-- The last two of spaced waits are an interval apart. -/
theorem Spaced.last {a b : Mark} (spaced : Spaced interval (marks ++ [a] ++ [b])) :
    a.instant + interval ≤ b.instant :=
  (List.pairwise_append.1 spaced).2.2 a (by simp) b (by simp)

end Courses

/-! ## One wait after another -/

/-- The gate after a wait, asked for at an instant and begun as soon as the turn is free. -/
def serve (p : Pacer) (asked : Nat) : Pacer :=
  if max p.now asked < p.next then { p with now := ceil p.next, next := p.next + p.interval }
  else { p with now := max p.now asked, next := max p.now asked + p.interval }

/-- The gates after waits that are asked for at these instants and begin one after another. Each of
them ends when it is at the gate after it. -/
def schedule (p : Pacer) : List Nat → List Pacer
  | [] => []
  | asked :: rest => p.serve asked :: schedule (p.serve asked) rest

section Waits

variable {tick interval : Nat} {marks : List Mark} {p : Pacer}

/-- A gate that nobody holds can serve a wait. -/
theorem Course.serve (course : Course tick interval marks p) (free : p.isHeld = false)
    (fine : tick ∣ 1000000) (asked : Nat) (ticks : tick ∣ asked) :
    ∃ m, Course tick interval (marks ++ [m]) (p.serve asked) ∧
      m.instant = (p.serve asked).now := by
  have clock : tick ∣ max p.now asked := by
    rcases Nat.le_total p.now asked with later | earlier
    · rwa [Nat.max_eq_right later]
    · rw [Nat.max_eq_left earlier]
      exact course.kept.clock
  have later : p.now + (max p.now asked - p.now) = max p.now asked := by omega
  have begun := course.step (.pass (max p.now asked - p.now)) (Nat.dvd_sub clock course.kept.clock)
    (Step.eq_some (.passes fun held => absurd held (Bool.eq_false_iff.1 free)))
  rw [later, List.append_nil] at begun
  unfold Pacer.serve
  split
  next early =>
    -- the slot is waited for, and the millisecond after it
    have taken := begun.step .take trivial (Step.eq_some (.sleeps free early))
    have woken : max p.now asked + (ceil p.next - max p.now asked) = ceil p.next := by
      have := le_ceil p.next
      omega
    have rested := taken.step (.pass (ceil p.next - max p.now asked))
      (Nat.dvd_sub (Nat.dvd_trans fine (dvd_ceil _)) clock)
      (Step.eq_some (.passes fun _ => Nat.le_of_eq woken))
    rw [List.append_nil, List.append_nil] at rested
    have ended := rested.step .wake trivial (Step.eq_some (.wakes rfl (Nat.le_of_eq woken.symm)))
    simp only [woken] at ended
    rw [← free] at ended
    exact ⟨_, ended, rfl⟩
  next due =>
    have ended := begun.step .take trivial (Step.eq_some (.goesOn free (Nat.not_lt.1 due)))
    exact ⟨_, ended, rfl⟩

/-- As long as waits are spaced, those of one who never pauses begin in the multiples of the
interval. -/
theorem exists_busy (spaced : ∀ marks p, Course 1000000 interval marks p → Spaced interval marks)
    (positive : 0 < interval) (n : Nat) :
    ∃ marks m, Course 1000000 interval (marks ++ [m])
        { interval := interval, now := ceil (n * interval), next := (n + 1) * interval } ∧
      m.instant = ceil (n * interval) := by
  induction n with
  | zero =>
    have start : Course 1000000 interval [] { interval := interval, now := 0, next := 0 } :=
      .start (Nat.dvd_zero _)
    obtain ⟨m, course, instant⟩ := start.serve rfl (Nat.dvd_refl _) 0 (Nat.dvd_zero _)
    refine ⟨[], m, ?_, ?_⟩
    · simpa [Pacer.serve, ceil, Intake.ceilMs] using course
    · simpa [Pacer.serve, ceil, Intake.ceilMs] using instant
  | succ n ih =>
    obtain ⟨marks, m, course, instant⟩ := ih
    obtain ⟨m', onward, instant'⟩ := course.serve rfl (Nat.dvd_refl _) 0 (Nat.dvd_zero _)
    have apart := (spaced _ _ onward).last
    by_cases early : ceil (n * interval) < (n + 1) * interval
    · refine ⟨marks ++ [m], m', ?_, ?_⟩
      · simpa [Pacer.serve, early, Nat.succ_mul (n + 1)] using onward
      · simpa [Pacer.serve, early] using instant'
    · -- the next wait would end at once
      simp only [Pacer.serve, Nat.max_zero, early, if_false] at instant'
      omega

/-- Where the interval is not in whole milliseconds, there are waits that end too soon. -/
theorem dvd_of_spaced (spaced : ∀ marks p, Course 1000000 interval marks p → Spaced interval marks) :
    1000000 ∣ interval := by
  rcases Nat.eq_zero_or_pos interval with rfl | positive
  · exact Nat.dvd_zero _
  have onward (n : Nat) : ceil (n * interval) + interval ≤ ceil ((n + 1) * interval) := by
    obtain ⟨marks, m, course, instant⟩ := exists_busy spaced positive n
    obtain ⟨m', after, instant'⟩ := course.serve rfl (Nat.dvd_refl _) 0 (Nat.dvd_zero _)
    have apart := (spaced _ _ after).last
    by_cases early : ceil (n * interval) < (n + 1) * interval
    · simp only [Pacer.serve, Nat.max_zero, early, if_true] at instant'
      omega
    · simp only [Pacer.serve, Nat.max_zero, early, if_false] at instant'
      omega
  -- what the first wait is late by is never made up for
  have late (n : Nat) : ceil interval + n * interval ≤ ceil ((n + 1) * interval) := by
    induction n with
    | zero =>
      -- the kernel is not to look into the division
      exact Nat.le_of_eq (by rw [Nat.zero_add, Nat.one_mul, Nat.zero_mul, Nat.add_zero])
    | succ n ih =>
      have := onward (n + 1)
      rw [Nat.succ_mul]
      omega
  have million := late 999999
  rw [ceil_of_dvd (Nat.dvd_mul_right (999999 + 1) interval)] at million
  have onTime : ceil interval = interval := by
    have := le_ceil interval
    omega
  rw [← onTime]
  exact dvd_ceil interval

/-- On an exact clock there are waits that end too soon, whatever the interval. -/
theorem eq_zero_of_spaced (spaced : ∀ marks p, Course 1 interval marks p → Spaced interval marks) :
    interval = 0 := by
  refine Classical.byContradiction fun positive => ?_
  -- the first wait begins so that the second is woken late
  obtain ⟨start, uneven⟩ : ∃ start, ¬1000000 ∣ start + interval := by
    by_cases even : 1000000 ∣ interval
    · exact ⟨1, by omega⟩
    · exact ⟨0, by omega⟩
  have begun : Course 1 interval [] { interval := interval, now := start, next := start } :=
    .start (Nat.one_dvd _)
  obtain ⟨a, first, -⟩ := begun.serve rfl (Nat.one_dvd _) 0 (Nat.one_dvd _)
  have sleeps : start < start + interval := by omega
  simp only [Pacer.serve, Nat.max_zero, Nat.lt_irrefl, if_false] at first
  obtain ⟨b, second, woken⟩ := first.serve rfl (Nat.one_dvd _) 0 (Nat.one_dvd _)
  simp only [Pacer.serve, Nat.max_zero, sleeps, if_true] at second woken
  obtain ⟨c, third, onTime⟩ := second.serve rfl (Nat.one_dvd _)
    (start + interval + interval) (Nat.one_dvd _)
  have due : ¬max (ceil (start + interval)) (start + interval + interval) <
      start + interval + interval := by omega
  simp only [Pacer.serve, due, if_false] at onTime
  have apart := (spaced _ _ third).last
  have late : ceil (start + interval) ≠ start + interval := by
    intro whole
    exact uneven (whole ▸ dvd_ceil _)
  have := le_ceil (start + interval)
  omega

/-! ## Waits that are given up -/

/-- A wait begins that sleeps, and is given up some time later. -/
def GivesUp (p : Pacer) (ns : Nat) (q : Pacer) : Prop :=
  ∃ taken passed, p.step? .take = some (taken, []) ∧ taken.step? (.pass ns) = some (passed, []) ∧
    passed.step? .drop = some (q, [])

theorem GivesUp.eq {q : Pacer} {ns : Nat} (gives : GivesUp p ns q) :
    p.now < p.next ∧ p.now + ns ≤ ceil p.next ∧ q = { p with now := p.now + ns } := by
  obtain ⟨taken, passed, takes, passes, drops⟩ := gives
  cases step_of_eq_some takes with
  | sleeps free early =>
    cases step_of_eq_some passes with
    | passes inTime =>
      cases step_of_eq_some drops with
      | givesUp held => exact ⟨early, inTime rfl, by rw [← free]⟩

/-- A gate plans all that follows as another one does if it serves the next wait as that one does. -/
theorem schedule_congr {q : Pacer} :
    (∀ rest, q.schedule rest = p.schedule rest) ↔ ∀ asked, q.serve asked = p.serve asked := by
  constructor
  · intro same asked
    have first := same [asked]
    simpa [schedule] using first
  · intro same rest
    cases rest with
    | nil => rfl
    | cons asked rest => rw [schedule, same, schedule]

/-- Whoever gives up before the slot leaves the waits of all others as they would have been. Who does
so later, though before being woken, does not: the next one need not wait any more then, and the
slots after it are later. -/
theorem schedule_of_givesUp_iff {q : Pacer} {ns : Nat} (gives : GivesUp p ns q) :
    (∀ rest, q.schedule rest = p.schedule rest) ↔ p.now + ns < p.next ∨ 1000000 ∣ p.next := by
  obtain ⟨early, inTime, rfl⟩ := gives.eq
  rw [schedule_congr]
  constructor
  · intro same
    rcases Nat.lt_or_ge (p.now + ns) p.next with before | late
    · exact .inl before
    · -- the next slot tells when the wait before it has begun
      have next := congrArg Pacer.next (same 0)
      have due : ¬p.now + ns < p.next := Nat.not_lt.2 late
      have now := congrArg Pacer.now (same 0)
      simp only [Pacer.serve, Nat.max_zero, early, due, if_true, if_false] at next now
      have onTime : ceil p.next = p.next := by omega
      exact .inr (onTime ▸ dvd_ceil p.next)
  · intro undisturbed asked
    simp only [Pacer.serve]
    rcases Nat.lt_or_ge (max (p.now + ns) asked) p.next with before | late
    · have here : max p.now asked < p.next := by omega
      rw [if_pos before, if_pos here]
    · rw [if_neg (Nat.not_lt.2 late)]
      rcases Nat.lt_or_ge asked p.next with soon | later
      · -- given up right at the slot
        have whole : ceil p.next = p.next := by
          rcases undisturbed with before | whole
          · omega
          · exact ceil_of_dvd whole
        have here : max (p.now + ns) asked = p.next := by omega
        rw [if_pos (by omega), here, whole]
      · have here : max (p.now + ns) asked = max p.now asked := by
          rcases undisturbed with before | whole
          · omega
          · have onTime := ceil_of_dvd whole
            omega
        rw [if_neg (by omega), here]

end Waits

/-! ## How far apart waits end -/

/-- How far apart waits end: their slots are an interval apart, they end an interval apart up to a
millisecond, and no less than the interval after one that is not late. -/
structure AlmostSpaced (interval : Nat) (marks : List Mark) : Prop where
  slots : marks.Pairwise fun a b => a.slot + interval ≤ b.slot
  nearly : marks.Pairwise fun a b => a.instant + interval < b.instant + 1000000
  onward : marks.Pairwise fun a b => a.instant = a.slot → a.instant + interval ≤ b.instant

theorem Course.almostSpaced {tick interval : Nat} {marks : List Mark} {p : Pacer}
    (course : Course tick interval marks p) : AlmostSpaced interval marks :=
  ⟨course.kept.slots, course.kept.nearly, course.kept.onward⟩

/-- On a clock in milliseconds waits end an interval apart just if the interval is in whole
milliseconds. -/
theorem spaced_iff_dvd {interval : Nat} :
    (∀ marks p, Course 1000000 interval marks p → Spaced interval marks) ↔ 1000000 ∣ interval := by
  constructor
  · exact dvd_of_spaced
  · intro even marks p course
    exact course.spaced_of_whole even

/-- On an exact clock waits end an interval apart just if there is no interval. -/
theorem spaced_iff_eq_zero {interval : Nat} :
    (∀ marks p, Course 1 interval marks p → Spaced interval marks) ↔ interval = 0 := by
  constructor
  · exact eq_zero_of_spaced
  · rintro rfl marks p course
    exact course.kept.order

end Pacer

end FlagAlerts
