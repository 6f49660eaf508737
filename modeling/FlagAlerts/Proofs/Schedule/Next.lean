import FlagAlerts.Proofs.Calendar.Zone
import FlagAlerts.Proofs.Schedule.Search
import Mathlib.Data.Int.LeastGreatest

/-!
# The next time of a schedule

The search from an instant on does not look at instants but at readings: it finds, of all instants
whose readings the schedule matches and are not before the reading one second later, one with the
least reading, and of these the earliest. Where clocks are set back this need not be the first such
instant afterwards, nor an instant afterwards at all.
-/

namespace FlagAlerts.Schedule

open FlagAlerts.Calendar

variable {s : Schedule} {z : Zone} {after t u : Int}

/-- The schedule matches what the zone's clocks show at an instant. -/
def FiresAt (s : Schedule) (z : Zone) (t : Int) : Prop := s.isMatch (z.localTime t) = true

instance (s : Schedule) (z : Zone) (t : Int) : Decidable (s.FiresAt z t) :=
  inferInstanceAs (Decidable (_ = true))

/-- The schedule fires at an instant whose reading is not before that of the second after another
one, which is not before the year zero. -/
structure IsAhead (s : Schedule) (z : Zone) (after t : Int) : Prop where
  fires : s.FiresAt z t
  year : 0 ≤ (z.localTime (after + 1)).date.year
  reading : z.reading (after + 1) ≤ z.reading t

/-- One instant comes before another by their readings, or by themselves if these are the same. -/
def ReadsBefore (z : Zone) (t u : Int) : Prop :=
  z.reading t < z.reading u ∨ z.reading t = z.reading u ∧ t ≤ u

/-- The candidates from a reading on, told by their counts. -/
theorem mem_candidates_ofSeconds (wf : s.IsWellFormed) {start : Int} {t : LocalTime}
    (year : 0 ≤ (LocalTime.ofSeconds start).date.year) :
    t ∈ s.candidates (.ofSeconds start) ↔
      ∃ r, start ≤ r ∧ s.isMatch (.ofSeconds r) = true ∧ t = .ofSeconds r := by
  obtain ⟨valid, count⟩ := LocalTime.ofSeconds_spec start
  constructor
  · intro h
    obtain ⟨ht, fires, order⟩ := isMatch_of_mem_candidates wf year h
    refine ⟨t.seconds, ?_, ?_, ht.ofSeconds_seconds.symm⟩
    · rw [← count]
      exact (valid.seconds_le_iff ht).2 order
    · rwa [ht.ofSeconds_seconds]
  · rintro ⟨r, order, fires, rfl⟩
    obtain ⟨ht, same⟩ := LocalTime.ofSeconds_spec r
    refine mem_candidates_of_isMatch ht year fires ((valid.seconds_le_iff ht).1 ?_)
    rwa [count, same]

/-- What the search gives for a reading that is shown are its instants. -/
theorem result_eq_some_iff (z : Zone) (r : Int) (instants : List Int) :
    (match z.instants (LocalTime.ofSeconds r).seconds with
      | [] => none
      | instants => some instants) = some instants ↔ instants ≠ [] ∧ z.instants r = instants := by
  rw [(LocalTime.ofSeconds_spec r).2]
  cases z.instants r with
  | nil => simp [eq_comm]
  | cons first rest =>
    simp only [Option.some.injEq, ne_eq]
    constructor
    · rintro rfl
      exact ⟨List.cons_ne_nil _ _, rfl⟩
    · exact And.right

/-- The search passes over a reading that is not shown. -/
theorem result_eq_none_iff (z : Zone) (r : Int) :
    (match z.instants (LocalTime.ofSeconds r).seconds with
      | [] => none
      | instants => some instants) = none ↔ z.instants r = [] := by
  rw [(LocalTime.ofSeconds_spec r).2]
  cases z.instants r <;> simp

/-- What the search finds is a reading: the first from the start on that the schedule matches and
the clocks show, with all its instants. -/
theorem firstFrom?_eq_some_iff (wf : s.IsWellFormed) {start : Int} (instants : List Int)
    (year : 0 ≤ (LocalTime.ofSeconds start).date.year) :
    s.firstFrom? z (.ofSeconds start) = some instants ↔
      instants ≠ [] ∧ ∃ r, start ≤ r ∧ s.isMatch (.ofSeconds r) = true ∧ z.instants r = instants ∧
        ∀ r', start ≤ r' → r' < r → s.isMatch (.ofSeconds r') = true → z.instants r' = [] := by
  rw [firstFrom?_eq s z _ year, findSome?_eq_some_of_sorted (candidates_sorted wf year)]
  constructor
  · rintro ⟨t, ht, found, least⟩
    obtain ⟨r, order, fires, rfl⟩ := (mem_candidates_ofSeconds wf year).1 ht
    obtain ⟨nonempty, same⟩ := (result_eq_some_iff z r _).1 found
    refine ⟨nonempty, r, order, fires, same, fun r' order' less fires' => ?_⟩
    refine (result_eq_none_iff z r').1
      (least _ ((mem_candidates_ofSeconds wf year).2 ⟨r', order', fires', rfl⟩) ?_)
    rwa [(LocalTime.ofSeconds_spec r').2, (LocalTime.ofSeconds_spec r).2]
  · rintro ⟨nonempty, r, order, fires, same, least⟩
    refine ⟨_, (mem_candidates_ofSeconds wf year).2 ⟨r, order, fires, rfl⟩,
      (result_eq_some_iff z r _).2 ⟨nonempty, same⟩, fun c hc less => ?_⟩
    obtain ⟨r', order', fires', rfl⟩ := (mem_candidates_ofSeconds wf year).1 hc
    rw [(LocalTime.ofSeconds_spec r').2, (LocalTime.ofSeconds_spec r).2] at less
    exact (result_eq_none_iff z r').2 (least r' order' less fires')

theorem firstFrom?_eq_none_iff (wf : s.IsWellFormed) {start : Int}
    (year : 0 ≤ (LocalTime.ofSeconds start).date.year) :
    s.firstFrom? z (.ofSeconds start) = none ↔
      ∀ r, start ≤ r → s.isMatch (.ofSeconds r) = true → z.instants r = [] := by
  rw [firstFrom?_eq s z _ year, List.findSome?_eq_none_iff]
  constructor
  · intro h r order fires
    exact (result_eq_none_iff z r).1
      (h _ ((mem_candidates_ofSeconds wf year).2 ⟨r, order, fires, rfl⟩))
  · intro h t ht
    obtain ⟨r, order, fires, rfl⟩ := (mem_candidates_ofSeconds wf year).1 ht
    exact (result_eq_none_iff z r).2 (h r order fires)

/-- What the search finds is ahead, and reads before all instants that are. -/
theorem isAhead_of_next? (wf : s.IsWellFormed) (year : 0 ≤ (z.localTime (after + 1)).date.year)
    (h : s.next? z after = some t) :
    s.IsAhead z after t ∧ ∀ u, s.IsAhead z after u → ReadsBefore z t u := by
  cases search : s.firstFrom? z (z.localTime (after + 1)) with
  | none => simp [next?, nextInstants, search] at h
  | some instants =>
    obtain ⟨-, r, order, fires, rfl, least⟩ := (firstFrom?_eq_some_iff wf instants year).1 search
    have head : (z.instants r).head? = some t := by simpa [next?, nextInstants, search] using h
    obtain ⟨rfl, earliest⟩ := Zone.head?_instants.1 head
    refine ⟨⟨fires, year, order⟩, fun u ahead => ?_⟩
    rcases Int.lt_trichotomy (z.reading t) (z.reading u) with less | same | more
    · exact .inl less
    · exact .inr ⟨same, earliest u same.symm⟩
    · have none := least _ ahead.reading more ahead.fires
      have member : u ∈ z.instants (z.reading u) := Zone.mem_instants.2 rfl
      rw [none] at member
      cases member

/-- The search finds the instant that is ahead and reads before all that are. -/
theorem next?_of_isAhead (wf : s.IsWellFormed) (ahead : s.IsAhead z after t)
    (least : ∀ u, s.IsAhead z after u → ReadsBefore z t u) : s.next? z after = some t := by
  have year := ahead.year
  have shown : t ∈ z.instants (z.reading t) := Zone.mem_instants.2 rfl
  -- no earlier reading that matches is shown, and its instants start with this one
  have hidden : ∀ r, z.reading (after + 1) ≤ r → r < z.reading t →
      s.isMatch (.ofSeconds r) = true → z.instants r = [] := by
    intro r order less fires
    apply List.eq_nil_iff_forall_not_mem.2
    intro u hu
    obtain rfl := Zone.mem_instants.1 hu
    rcases least u ⟨fires, year, order⟩ with before | ⟨same, -⟩
    · omega
    · omega
  have head : (z.instants (z.reading t)).head? = some t := by
    refine Zone.head?_instants.2 ⟨rfl, fun other same => ?_⟩
    have other_ahead : s.IsAhead z after other := by
      refine ⟨?_, year, by rw [same]; exact ahead.reading⟩
      rw [FiresAt, Zone.localTime, same]
      exact ahead.fires
    rcases least other other_ahead with before | ⟨-, le⟩
    · omega
    · exact le
  have search := (firstFrom?_eq_some_iff (z := z) wf (z.instants (z.reading t)) year).2
    ⟨List.ne_nil_of_mem shown, z.reading t, ahead.reading, ahead.fires, rfl, hidden⟩
  have localTime : z.localTime (after + 1) = .ofSeconds (z.reading (after + 1)) := rfl
  rw [next?, nextInstants, localTime, search]
  exact head

/-- The search finds an instant that is ahead and reads before all that are. -/
theorem next?_eq_some_iff (wf : s.IsWellFormed) :
    s.next? z after = some t ↔
      s.IsAhead z after t ∧ ∀ u, s.IsAhead z after u → ReadsBefore z t u := by
  constructor
  · intro h
    by_cases year : 0 ≤ (z.localTime (after + 1)).date.year
    · exact isAhead_of_next? wf year h
    · simp [next?, nextInstants, firstFrom?, if_pos (Int.not_le.1 year)] at h
  · rintro ⟨ahead, least⟩
    exact next?_of_isAhead wf ahead least

/-- The search finds nothing where no instant is ahead. -/
theorem next?_eq_none_iff (wf : s.IsWellFormed) :
    s.next? z after = none ↔ ∀ u, ¬ s.IsAhead z after u := by
  constructor
  · intro h u ahead
    have none := (firstFrom?_eq_none_iff (z := z) wf ahead.year).1
    cases search : s.firstFrom? z (z.localTime (after + 1)) with
    | none =>
      have empty := none search _ ahead.reading ahead.fires
      have member : u ∈ z.instants (z.reading u) := Zone.mem_instants.2 rfl
      rw [empty] at member
      cases member
    | some instants =>
      have nonempty := ((firstFrom?_eq_some_iff wf instants ahead.year).1 search).1
      cases instants with
      | nil => exact nonempty rfl
      | cons first rest => simp [next?, nextInstants, search] at h
  · intro h
    cases found : s.next? z after with
    | none => rfl
    | some t => exact absurd ((next?_eq_some_iff wf).1 found).1 (h t)

/-! ## What comes next -/

/-- The first instant after another at which the schedule fires. -/
structure IsNext (s : Schedule) (z : Zone) (after t : Int) : Prop where
  later : after < t
  fires : s.FiresAt z t
  least : ∀ u, after < u → s.FiresAt z u → t ≤ u

theorem exists_isNext (later : after < u) (fires : s.FiresAt z u) :
    ∃ t, s.IsNext z after t ∧ t ≤ u := by
  obtain ⟨t, ⟨ht, firesAt⟩, least⟩ := Int.exists_least_of_bdd
    (P := fun t => after < t ∧ s.FiresAt z t) ⟨after, fun t h => Int.le_of_lt h.1⟩ ⟨u, later, fires⟩
  exact ⟨t, ⟨ht, firesAt, fun v hv firesV => least v ⟨hv, firesV⟩⟩, least u ⟨later, fires⟩⟩

/-- After an instant there is a next one at which the schedule fires, or none at all. -/
theorem next_or_nothing (s : Schedule) (z : Zone) (after : Int) :
    (∃ t, s.IsNext z after t) ∨ ∀ u, after < u → ¬ s.FiresAt z u := by
  by_cases any : ∃ u, after < u ∧ s.FiresAt z u
  · obtain ⟨u, later, fires⟩ := any
    obtain ⟨t, next, -⟩ := exists_isNext later fires
    exact .inl ⟨t, next⟩
  · exact .inr fun u later fires => any ⟨u, later, fires⟩

/-- The search finds the next instant, if there is one, and nothing otherwise. -/
structure FindsNext (s : Schedule) (z : Zone) (after : Int) : Prop where
  next : ∀ t, s.IsNext z after t → s.next? z after = some t
  nothing : (∀ u, after < u → ¬ s.FiresAt z u) → s.next? z after = none

/-- At an instant readings and instants are in step: the next instant at which the schedule fires is
ahead and reads before all that are, and if there is none, nothing is ahead. -/
structure InStep (s : Schedule) (z : Zone) (after : Int) : Prop where
  next : ∀ t, s.IsNext z after t →
    s.IsAhead z after t ∧ ∀ u, s.IsAhead z after u → ReadsBefore z t u
  nothing : (∀ u, after < u → ¬ s.FiresAt z u) → ∀ u, ¬ s.IsAhead z after u

/-- The search is right just where readings and instants are in step. -/
theorem findsNext_iff_inStep (wf : s.IsWellFormed) : s.FindsNext z after ↔ s.InStep z after := by
  constructor
  · intro h
    exact ⟨fun t ht => (next?_eq_some_iff wf).1 (h.next t ht),
      fun none => (next?_eq_none_iff wf).1 (h.nothing none)⟩
  · intro h
    exact ⟨fun t ht => (next?_eq_some_iff wf).2 (h.next t ht),
      fun none => (next?_eq_none_iff wf).2 (h.nothing none)⟩

end FlagAlerts.Schedule
