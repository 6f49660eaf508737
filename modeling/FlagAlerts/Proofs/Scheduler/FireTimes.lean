import FlagAlerts.Scheduler.Loop
import FlagAlerts.Proofs.Schedule.Next
import FlagAlerts.Proofs.Scheduler.Runs

/-!
# When the loop of a job fires

A loop that is not stopped, whose wall clock does not run backwards and whose sleeps end at their
deadlines, fires at every instant of its schedule, in order, if the search for the next instant is
right wherever the loop asks for it. That is so just where readings and instants are in step. So it
is in a zone whose clocks are never set back, and it is not if clocks show a reading twice that the
schedule matches.
-/

namespace FlagAlerts

open FlagAlerts.Calendar FlagAlerts.Schedule

namespace JobLoop

/-! ## Courses of a loop -/

/-- Time may go by on the timer and on the wall: not while the loop plans, and not beyond a deadline,
which the timer and the wall reach together. -/
def MayPass (l : JobLoop) (c : Clock) (ms wall : Nat) : Prop :=
  l.phase ≠ .planning ∧ ∀ time wake, l.phase = .sleeping time wake →
    c.timer + ms ≤ wake ∧ c.wall + wall ≤ time * 1000 ∧
      (c.timer + ms = wake → c.wall + wall = time * 1000)

/-- What can come of a loop that is not stopped, with the time. -/
inductive Course (z : Zone) (grace : Nat) (start : JobLoop) (clock : Clock) :
    JobLoop → Clock → Prop where
  | initial : Course z grace start clock start clock
  | act {l k : JobLoop} {c : Clock} (a : LoopAction) (before : Course z grace start clock l c)
    (next : l.step? z grace false c a = some k) : Course z grace start clock k c
  | pass {l : JobLoop} {c : Clock} (ms wall : Nat) (before : Course z grace start clock l c)
    (may : l.MayPass c ms wall) : Course z grace start clock l ⟨c.timer + ms, c.wall + wall⟩

/-- A loop that starts now. -/
def fresh (job : String) (s : Schedule) (clock : Clock) : JobLoop :=
  { job := job, schedule := s, lastTime := clock.wall / 1000 }

/-- Up to now the loop fired once at every instant of its schedule since its start, in order, and
the time that it is about to sleep up to is still to come. -/
structure FiresOnTime (s : Schedule) (z : Zone) (start : Clock) (l : JobLoop) (c : Clock) :
    Prop where
  ordered : l.fired.Pairwise (· < ·)
  sound : ∀ t ∈ l.fired, start.wall < t * 1000 ∧ s.FiresAt z t ∧ t * 1000 ≤ c.wall
  complete : ∀ t, start.wall < t * 1000 → s.FiresAt z t → t * 1000 < c.wall → t ∈ l.fired
  later : l.phase = .planning → ∀ t, s.next? z (max l.lastTime (c.wall / 1000)) = some t →
    max l.lastTime (c.wall / 1000) < t

/-- An instant from which the loop looks for the next one: that of its start, and those at which it
should fire. -/
def IsOrigin (s : Schedule) (z : Zone) (start : Clock) (t : Int) : Prop :=
  t = start.wall / 1000 ∨ start.wall < t * 1000 ∧ s.FiresAt z t

section Courses

variable {s : Schedule} {z : Zone} {grace : Nat} {job : String} {start c : Clock} {l k : JobLoop}
  {a : LoopAction} {t u after : Int}

/-! ## If the search is right -/

/-- What the phase of a loop that fires on time says. -/
def PhaseKept (s : Schedule) (z : Zone) (l : JobLoop) (c : Clock) : Prop :=
  match l.phase with
  | .planning => l.lastTime = c.wall / 1000
  | .sleeping time wake => s.IsNext z l.lastTime time ∧ c.wall ≤ time * 1000 ∧ c.timer ≤ wake ∧
      (c.timer = wake → c.wall = time * 1000)
  | .exhausted | .finished => ∀ u, l.lastTime < u → ¬ s.FiresAt z u
  | .draining _ => False

/-- What holds of a loop that fires on time. -/
structure Punctual (s : Schedule) (z : Zone) (start : Clock) (l : JobLoop) (c : Clock) : Prop where
  schedule : l.schedule = s
  origin : IsOrigin s z start l.lastTime
  ordered : l.fired.Pairwise (· < ·)
  fired : ∀ t, t ∈ l.fired ↔ start.wall < t * 1000 ∧ t ≤ l.lastTime ∧ s.FiresAt z t
  passed : l.lastTime ≤ c.wall / 1000
  phase : PhaseKept s z l c

/-- A loop that only keeps books about its runs stays punctual. -/
theorem Punctual.frame (h : Punctual s z start l c) (schedule : k.schedule = l.schedule)
    (lastTime : k.lastTime = l.lastTime) (fired : k.fired = l.fired) (phase : k.phase = l.phase) :
    Punctual s z start k c where
  schedule := schedule.trans h.schedule
  origin := by rw [lastTime]; exact h.origin
  ordered := by rw [fired]; exact h.ordered
  fired := by rw [fired, lastTime]; exact h.fired
  passed := by rw [lastTime]; exact h.passed
  phase := by
    have kept := h.phase
    simpa only [PhaseKept, phase, lastTime] using kept

theorem Punctual.plan (h : Punctual s z start l c)
    (right : ∀ t, IsOrigin s z start t → s.FindsNext z t) (phase : l.phase = .planning) :
    Punctual s z start (l.plan z c) c := by
  have now : l.lastTime = c.wall / 1000 := by
    have kept := h.phase
    simpa only [PhaseKept, phase] using kept
  have origin : max l.lastTime (c.wall / 1000) = l.lastTime := by omega
  have finds := right _ h.origin
  rcases next_or_nothing s z l.lastTime with ⟨t, next⟩ | silent
  · have found : l.schedule.next? z (max l.lastTime (c.wall / 1000)) = some t := by
      rw [h.schedule, origin, finds.next t next]
    have ahead := next.later
    rw [plan_of_some found]
    refine { h with phase := ?_ }
    simp only [PhaseKept]
    exact ⟨next, by omega, by omega, by omega⟩
  · have found : l.schedule.next? z (max l.lastTime (c.wall / 1000)) = none := by
      rw [h.schedule, origin, finds.nothing silent]
    rw [plan_of_none found]
    refine { h with phase := ?_ }
    simp only [PhaseKept]
    exact silent

theorem Punctual.fire (h : Punctual s z start l c) {time : Int} {wake : Nat}
    (phase : l.phase = .sleeping time wake) (due : wake ≤ c.timer) :
    Punctual s z start (l.fire time) c := by
  have kept := h.phase
  simp only [PhaseKept, phase] at kept
  obtain ⟨next, -, early, deadline⟩ := kept
  have now : c.wall = time * 1000 := deadline (by omega)
  have later := next.later
  have since : start.wall < time * 1000 := by
    rcases h.origin with first | ⟨first, -⟩ <;> omega
  exact {
    schedule := h.schedule
    origin := .inr ⟨since, next.fires⟩
    ordered := by
      refine List.pairwise_append.2 ⟨h.ordered, List.pairwise_singleton _ _, fun t ht u hu => ?_⟩
      obtain rfl := List.mem_singleton.1 hu
      have old := ((h.fired t).1 ht).2.1
      omega
    fired := by
      intro t
      simp only [JobLoop.fire, List.mem_append, List.mem_singleton, h.fired]
      constructor
      · rintro (⟨new, old, fires⟩ | rfl)
        · exact ⟨new, by omega, fires⟩
        · exact ⟨since, Int.le_refl _, next.fires⟩
      · rintro ⟨new, upTo, fires⟩
        rcases Int.lt_or_le l.lastTime t with ahead | old
        · have least := next.least t ahead fires
          exact .inr (by omega)
        · exact .inl ⟨new, old, fires⟩
    passed := by
      simp only [JobLoop.fire]
      omega
    phase := by
      simp only [JobLoop.fire, PhaseKept]
      omega }

/-- Every step of a loop that is not stopped keeps it punctual. -/
theorem Punctual.step (h : Punctual s z start l c)
    (right : ∀ t, IsOrigin s z start t → s.FindsNext z t)
    (next : l.step? z grace false c a = some k) : Punctual s z start k c := by
  cases a with
  | plan =>
    simp only [step?] at next
    split at next
    next phase =>
      cases next
      exact h.plan right phase
    next => cases next
  | fire =>
    simp only [step?] at next
    split at next
    next time wake phase =>
      split at next
      next due =>
        cases next
        exact h.fire phase (by simpa using due)
      next => cases next
    next => cases next
  | notice =>
    simp only [step?] at next
    split at next <;> simp at next
  | close =>
    have kept := h.phase
    simp only [step?] at next
    split at next
    next phase =>
      split at next
      next =>
        cases next
        refine { h with phase := ?_ }
        simpa only [PhaseKept, phase] using kept
      next => cases next
    next deadline phase => simp only [PhaseKept, phase] at kept
    next => cases next
  | beginRun number =>
    simp only [step?] at next
    split at next <;> cases next
    exact h.frame rfl rfl rfl rfl
  | endRun number how =>
    simp only [step?] at next
    split at next <;> cases next
    exact h.frame rfl rfl rfl rfl

/-- Time that may go by keeps a loop punctual. -/
theorem Punctual.pass (h : Punctual s z start l c) {ms wall : Nat} (may : l.MayPass c ms wall) :
    Punctual s z start l ⟨c.timer + ms, c.wall + wall⟩ := by
  have passed := h.passed
  refine { h with passed := by simp only; omega, phase := ?_ }
  have kept := h.phase
  obtain ⟨planned, deadlines⟩ := may
  cases phase : l.phase with
  | planning => exact absurd phase planned
  | sleeping time wake =>
    simp only [PhaseKept, phase] at kept ⊢
    obtain ⟨early, before, deadline⟩ := deadlines time wake phase
    exact ⟨kept.1, before, early, deadline⟩
  | exhausted | finished =>
    simp only [PhaseKept, phase] at kept ⊢
    exact kept
  | draining deadline => simp only [PhaseKept, phase] at kept

theorem Punctual.of_course (right : ∀ t, IsOrigin s z start t → s.FindsNext z t)
    (course : Course z grace (fresh job s start) start l c) : Punctual s z start l c := by
  induction course with
  | initial =>
    exact {
      schedule := rfl
      origin := .inl rfl
      ordered := List.Pairwise.nil
      fired := by
        intro t
        simp only [fresh, List.not_mem_nil, false_iff, not_and]
        intro new old
        omega
      passed := Int.le_refl _
      phase := rfl }
  | act a _ next ih => exact ih.step right next
  | pass ms wall _ may ih => exact ih.pass may

/-- A punctual loop fires on time. -/
theorem Punctual.firesOnTime (h : Punctual s z start l c)
    (right : ∀ t, IsOrigin s z start t → s.FindsNext z t) : FiresOnTime s z start l c where
  ordered := h.ordered
  sound := by
    intro t ht
    obtain ⟨new, old, fires⟩ := (h.fired t).1 ht
    have passed := h.passed
    exact ⟨new, fires, by omega⟩
  complete := by
    intro t new fires past
    refine (h.fired t).2 ⟨new, ?_, fires⟩
    have kept := h.phase
    rcases Int.lt_or_le l.lastTime t with ahead | old
    · unfold PhaseKept at kept
      split at kept
      · omega
      · have least := kept.1.least t ahead fires
        omega
      · exact absurd fires (kept t ahead)
      · exact absurd fires (kept t ahead)
      · exact kept.elim
    · exact old
  later := by
    intro phase t found
    have kept := h.phase
    simp only [PhaseKept, phase] at kept
    have origin : max l.lastTime (c.wall / 1000) = l.lastTime := by omega
    rw [origin] at found ⊢
    have finds := right _ h.origin
    rcases next_or_nothing s z l.lastTime with ⟨v, next⟩ | silent
    · obtain rfl : v = t := Option.some.inj ((finds.next v next).symm.trans found)
      exact next.later
    · rw [finds.nothing silent] at found
      cases found

/-! ## If the loop fires on time -/

/-- An instant of the schedule after an origin is the next one after some origin. -/
theorem previous_origin (origin : IsOrigin s z start u) (later : u < t) (fires : s.FiresAt z t) :
    ∃ b, IsOrigin s z start b ∧ s.IsNext z b t ∧ u ≤ b := by
  obtain ⟨b, ⟨origin', before⟩, greatest⟩ := Int.exists_greatest_of_bdd
    (P := fun b => IsOrigin s z start b ∧ b < t) ⟨t, fun b h => Int.le_of_lt h.2⟩ ⟨u, origin, later⟩
  have since : start.wall / 1000 ≤ b := by
    rcases origin' with first | ⟨first, -⟩ <;> omega
  refine ⟨b, origin', ⟨before, fires, fun v after firesV => ?_⟩, greatest u ⟨origin, later⟩⟩
  by_contra earlier
  have bound := greatest v ⟨.inr ⟨by omega, firesV⟩, by omega⟩
  omega

/-- The loop gets to plan at an instant, with nothing left behind. -/
def PlansAt (s : Schedule) (z : Zone) (grace : Nat) (job : String) (start : Clock) (t : Int) : Prop :=
  ∃ l c, Course z grace (fresh job s start) start l c ∧ l.schedule = s ∧ l.phase = .planning ∧
    l.lastTime = t ∧ c.wall / 1000 = t

/-- A loop that finds a later instant sleeps up to it and fires. -/
theorem Course.fires {l₀ : JobLoop} (course : Course z grace l₀ start l c)
    (phase : l.phase = .planning)
    (found : l.schedule.next? z (max l.lastTime (c.wall / 1000)) = some t)
    (later : c.wall / 1000 < t) :
    ∃ k d, Course z grace l₀ start k d ∧ k.schedule = l.schedule ∧ k.phase = .planning ∧
      k.lastTime = t ∧ d.wall = t * 1000 ∧ k.fired = l.fired ++ [t] := by
  have planned := course.act .plan (k := l.plan z c) (by simp only [step?, phase, if_true])
  rw [plan_of_some found] at planned
  have slept := planned.pass (t * 1000 - c.wall).toNat (t * 1000 - c.wall).toNat <| by
    refine ⟨by simp, fun time wake sleeping => ?_⟩
    obtain ⟨rfl, rfl⟩ := LoopPhase.sleeping.inj sleeping
    omega
  have fired := slept.act .fire (by simp [step?]; rfl)
  exact ⟨_, _, fired, rfl, rfl, rfl, by simp only; omega, rfl⟩

/-- A loop that finds nothing lets time go by. -/
theorem Course.exhausts {l₀ : JobLoop} (course : Course z grace l₀ start l c)
    (phase : l.phase = .planning)
    (found : l.schedule.next? z (max l.lastTime (c.wall / 1000)) = none) (wall : Nat) :
    ∃ k d, Course z grace l₀ start k d ∧ k.fired = l.fired ∧ d.wall = c.wall + wall := by
  have planned := course.act .plan (k := l.plan z c) (by simp only [step?, phase, if_true])
  rw [plan_of_none found] at planned
  have passed := planned.pass wall wall ⟨by simp, fun time wake sleeping => by cases sleeping⟩
  exact ⟨_, _, passed, rfl, rfl⟩

section OnTime

variable (always : ∀ l c, Course z grace (fresh job s start) start l c → FiresOnTime s z start l c)

include always

/-- Where a loop that fires on time finds nothing, there is nothing. -/
theorem PlansAt.nothing (h : PlansAt s z grace job start after) (since : start.wall / 1000 ≤ after)
    (found : s.next? z after = none) : ∀ t, ¬ s.IsNext z after t := by
  obtain ⟨l, c, course, schedule, phase, last, now⟩ := h
  have origin : max l.lastTime (c.wall / 1000) = after := by omega
  intro t next
  have later := next.later
  -- time goes by until the loop should have fired
  obtain ⟨k, d, passed, fired, wall⟩ := course.exhausts phase
    (by rw [schedule, origin, found]) (t * 1000 + 1 - c.wall).toNat
  have member := (always k d passed).complete t (by omega) next.fires (by omega)
  rw [fired] at member
  obtain ⟨-, -, past⟩ := (always l c course).sound t member
  omega

/-- Where a loop that fires on time finds an instant, that is the next one, and it gets to plan at
it. -/
theorem PlansAt.found (h : PlansAt s z grace job start after) (since : start.wall / 1000 ≤ after)
    {v : Int} (found : s.next? z after = some v) : after < v ∧ s.FiresAt z v ∧
      (∀ t, s.IsNext z after t → t = v) ∧ PlansAt s z grace job start v := by
  obtain ⟨l, c, course, schedule, phase, last, now⟩ := h
  have onTime := always l c course
  have origin : max l.lastTime (c.wall / 1000) = after := by omega
  have ahead := onTime.later phase v (by rw [origin, found])
  rw [origin] at ahead
  obtain ⟨k, d, course', schedule', phase', last', wall, fired⟩ := course.fires phase
    (by rw [schedule, origin, found]) (by omega)
  have onTime' := always k d course'
  have firesAt : s.FiresAt z v := by
    have member : v ∈ k.fired := by
      rw [fired]
      exact List.mem_append_right _ (List.mem_singleton_self v)
    exact (onTime'.sound v member).2.1
  refine ⟨ahead, firesAt, fun t next => ?_, k, d, course', schedule'.trans schedule, phase', last',
    by omega⟩
  have later := next.later
  have least := next.least v ahead firesAt
  rcases Int.lt_or_le t v with before | reached
  · have member := onTime'.complete t (by omega) next.fires (by omega)
    rw [fired] at member
    rcases List.mem_append.1 member with earlier | here
    · obtain ⟨-, -, past⟩ := onTime.sound t earlier
      omega
    · exact List.mem_singleton.1 here
  · omega

/-- Where a loop that fires on time plans, the search is right, and the loop gets to plan at the
next instant too. -/
theorem PlansAt.findsNext (h : PlansAt s z grace job start after)
    (since : start.wall / 1000 ≤ after) :
    s.FindsNext z after ∧ ∀ t, s.IsNext z after t → PlansAt s z grace job start t := by
  cases search : s.next? z after with
  | none =>
    have silent := h.nothing always since search
    exact ⟨⟨fun t next => absurd next (silent t), fun _ => search⟩,
      fun t next => absurd next (silent t)⟩
  | some v =>
    obtain ⟨ahead, fires, same, plans⟩ := h.found always since search
    refine ⟨⟨fun t next => by rw [same t next, search], fun silent => ?_⟩, fun t next => ?_⟩
    · exact absurd fires (silent v ahead)
    · rw [same t next]
      exact plans

/-- A loop that fires on time gets to plan at every instant at which it should. -/
theorem plansAt_of_isOrigin (h : IsOrigin s z start t) : PlansAt s z grace job start t := by
  -- The induction is on the seconds since the start: every origin is the next one after an earlier.
  induction length : (t - start.wall / 1000).toNat using Nat.strong_induction_on generalizing t with
  | _ n ih =>
    rcases h with rfl | ⟨since, fires⟩
    · exact ⟨_, _, .initial, rfl, rfl, rfl, rfl⟩
    · have first : IsOrigin s z start (start.wall / 1000) := .inl rfl
      obtain ⟨b, origin, next, since'⟩ := previous_origin first (t := t) (by omega) fires
      have later := next.later
      have plans := ih _ (by omega) origin rfl
      exact (plans.findsNext always since').2 t next

/-- A loop that fires on time has readings and instants in step wherever it should plan. -/
theorem inStep_of_firesOnTime (wf : s.IsWellFormed) (h : IsOrigin s z start t) : s.InStep z t := by
  have since : start.wall / 1000 ≤ t := by
    rcases h with first | ⟨first, -⟩ <;> omega
  exact (findsNext_iff_inStep wf).1 ((plansAt_of_isOrigin always h).findsNext always since).1

end OnTime

/-- A loop fires on time if readings and instants are in step wherever it should plan. -/
theorem Course.firesOnTime (wf : s.IsWellFormed)
    (inStep : ∀ t, IsOrigin s z start t → s.InStep z t)
    (course : Course z grace (fresh job s start) start l c) : FiresOnTime s z start l c := by
  have right : ∀ t, IsOrigin s z start t → s.FindsNext z t := fun t origin =>
    (findsNext_iff_inStep wf).2 (inStep t origin)
  exact (Punctual.of_course right course).firesOnTime right

/-! ## Zones whose clocks are never set back, and zones whose clocks are -/

/-- If clocks are never set back, readings and instants are in step after the year zero. -/
theorem inStep_of_neverSetBack (forward : z.IsNeverSetBack)
    (year : 0 ≤ (z.localTime (after + 1)).date.year) : s.InStep z after := by
  have later : ∀ u, s.IsAhead z after u → after < u := by
    intro u ahead
    have order := forward.le_of_reading_le ahead.reading
    omega
  constructor
  · intro t next
    have order : after + 1 ≤ t := next.later
    refine ⟨⟨next.fires, year, forward.reading_le order⟩, fun u ahead => ?_⟩
    rcases Int.lt_or_eq_of_le (next.least u (later u ahead) ahead.fires) with before | rfl
    · exact .inl (forward t u before)
    · exact .inr ⟨rfl, Int.le_refl _⟩
  · intro silent u ahead
    exact silent u (later u ahead) ahead.fires

/-- Where clocks are never set back, every loop that starts after the year zero fires on time. -/
theorem Course.firesOnTime_of_neverSetBack (wf : s.IsWellFormed) (forward : z.IsNeverSetBack)
    (year : 0 ≤ (z.localTime (start.wall / 1000 + 1)).date.year)
    (course : Course z grace (fresh job s start) start l c) : FiresOnTime s z start l c := by
  refine course.firesOnTime wf fun t origin => inStep_of_neverSetBack forward ?_
  have since : start.wall / 1000 + 1 ≤ t + 1 := by
    rcases origin with first | ⟨first, -⟩ <;> omega
  exact LocalTime.year_nonneg_of_le (forward.reading_le since) year

/-- If clocks show a reading twice that the schedule matches, no loop that starts before fires on
time. -/
theorem not_firesOnTime_of_repeated (wf : s.IsWellFormed) (since : start.wall < t * 1000)
    (order : t < u) (repeated : z.reading t = z.reading u) (fires : s.FiresAt z t) :
    ¬ ∀ l c, Course z grace (fresh job s start) start l c → FiresOnTime s z start l c := by
  intro always
  have fires' : s.FiresAt z u := by
    unfold FiresAt Zone.localTime at *
    rwa [← repeated]
  obtain ⟨b, origin, next, reached⟩ := previous_origin (.inr ⟨since, fires⟩) order fires'
  obtain ⟨ahead, least⟩ := (inStep_of_firesOnTime always wf origin).next u next
  have back : s.IsAhead z b t := ⟨fires, ahead.year, by rw [repeated]; exact ahead.reading⟩
  rcases least t back with before | ⟨-, before⟩ <;> omega

/-! ## The whole -/

/-- A loop fires on time if and only if readings and instants are in step at the instant of its
start and at all at which it should fire. -/
theorem fires_on_time_iff_inStep {expression : String}
    (parsed : Schedule.parse? expression = some s) (z : Zone) (grace : Nat) (job : String)
    (start : Clock) :
    (∀ l c, Course z grace (fresh job s start) start l c → FiresOnTime s z start l c) ↔
      ∀ t, IsOrigin s z start t → s.InStep z t := by
  have wf := parse?_wellFormed parsed
  constructor
  · intro always t origin
    exact inStep_of_firesOnTime always wf origin
  · intro inStep l c course
    exact course.firesOnTime wf inStep

/-- The clocks of New York around the third of November 2024, when they were set back by an hour. -/
def newYork : Zone := ⟨"America/New_York", -14400, [⟨1730613600, -18000⟩]⟩

/-- Half past one o'clock on every day. -/
def halfPastOne : Schedule :=
  ⟨[0], [30], [1], List.range' 1 31, List.range' 1 12, List.range' 1 7, List.range' 1970 131⟩

/-- A loop that starts a quarter past one, after the clocks were set back, does not fire on time: it
takes half past one before they were set back, which is over, for the next instant. -/
theorem not_fires_on_time_in_new_york :
    ¬ ∀ l c, Course newYork 0 (fresh "report" halfPastOne ⟨0, 1730614500000⟩) ⟨0, 1730614500000⟩ l c →
      FiresOnTime halfPastOne newYork ⟨0, 1730614500000⟩ l c := by
  have parsed : Schedule.parse? "30 1 * * *" = some halfPastOne := by decide +kernel
  rw [fires_on_time_iff_inStep parsed]
  intro inStep
  have here := inStep 1730614500 (.inl rfl)
  have bygone : halfPastOne.IsAhead newYork 1730614500 1730611800 :=
    ⟨by decide +kernel, by decide +kernel, by decide +kernel⟩
  have fires : halfPastOne.FiresAt newYork 1730615400 := by decide +kernel
  have ahead : (1730614500 : Int) < 1730615400 := by omega
  obtain ⟨t, next, bound⟩ := exists_isNext ahead fires
  have later := next.later
  have reading : newYork.reading t = t - 18000 := by
    simp only [Zone.reading, Zone.offsetAt, newYork, List.foldl_cons, List.foldl_nil]
    omega
  have first : newYork.reading 1730611800 = 1730597400 := by decide +kernel
  have early : t < 1730615400 := by
    rcases (here.next t next).2 _ bygone with before | ⟨-, before⟩ <;> omega
  obtain ⟨-, -, -, minute, -⟩ := isMatch_iff.1 next.fires
  have thirty : (newYork.localTime t).minute = 30 := List.mem_singleton.1 minute
  simp only [Zone.localTime, LocalTime.ofSeconds, reading, daySeconds] at thirty
  omega

end Courses

end JobLoop

end FlagAlerts
