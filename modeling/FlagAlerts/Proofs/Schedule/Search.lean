import FlagAlerts.Schedule.Next
import FlagAlerts.Proofs.Calendar.LocalTime
import FlagAlerts.Proofs.Schedule.Fields

/-!
# The order of the search

The search for a day and that for a time of day go through three fields, each from where the ones
before leave off. Both try triples in order, from a bound on. Together they try the wall clock times
that the schedule matches, in order, from a reading on.
-/

namespace FlagAlerts.Schedule

open FlagAlerts.Calendar

/-! ## Lists in order -/

section First

variable {α β γ : Type} {f : α → Option β} {key : α → Int}

theorem findSome?_flatMap (l : List γ) (g : γ → List α) :
    (l.flatMap g).findSome? f = l.findSome? fun x => (g x).findSome? f := by
  induction l with
  | nil => rfl
  | cons x rest ih =>
    rw [List.flatMap_cons, List.findSome?_append, List.findSome?_cons, ih]
    cases (g x).findSome? f <;> rfl

/-- In a list in order the first result is that of the least member that has one. -/
theorem findSome?_eq_some_of_sorted {l : List α} {b : β}
    (sorted : l.Pairwise fun x y => key x < key y) :
    l.findSome? f = some b ↔ ∃ a ∈ l, f a = some b ∧ ∀ c ∈ l, key c < key a → f c = none := by
  induction l with
  | nil => simp
  | cons x rest ih =>
    obtain ⟨first, later⟩ := List.pairwise_cons.1 sorted
    rw [List.findSome?_cons]
    constructor
    · intro found
      cases here : f x with
      | some y =>
        rw [here] at found
        refine ⟨x, List.mem_cons_self, here.trans found, fun c hc before => ?_⟩
        rcases List.mem_cons.1 hc with rfl | hc
        · omega
        · have := first c hc
          omega
      | none =>
        rw [here] at found
        obtain ⟨a, ha, hit, least⟩ := (ih later).1 found
        refine ⟨a, List.mem_cons_of_mem x ha, hit, fun c hc before => ?_⟩
        rcases List.mem_cons.1 hc with rfl | hc
        · exact here
        · exact least c hc before
    · rintro ⟨a, ha, hit, least⟩
      rcases List.mem_cons.1 ha with rfl | ha
      · rw [hit]
      · rw [least x List.mem_cons_self (first a ha)]
        exact (ih later).2 ⟨a, ha, hit, fun c hc => least c (List.mem_cons_of_mem x hc)⟩

end First

/-! ## Triples in order -/

/-- Three numbers, the first of which counts most. -/
abbrev Triple := Nat × Nat × Nat

/-- One triple comes before another. -/
def Triple.IsBefore (x y : Triple) : Prop :=
  x.1 < y.1 ∨ x.1 = y.1 ∧ (x.2.1 < y.2.1 ∨ x.2.1 = y.2.1 ∧ x.2.2 < y.2.2)

/-- The triples of three fields that are not before a bound, each with whether it is the bound. -/
def triples (as bs cs : List Nat) (bound : Option Triple) : List (Triple × Bool) :=
  (above as (bound.map (·.1))).flatMap fun (a, tight) =>
    (above bs (if tight then bound.map (·.2.1) else none)).flatMap fun (b, tight) =>
      (above cs (if tight then bound.map (·.2.2) else none)).map fun (c, tight) => ((a, b, c), tight)

section Triples

variable {ns as bs cs : List Nat} {bound : Option Triple}

theorem mem_above {bound : Option Nat} {n : Nat} {tight : Bool} :
    (n, tight) ∈ above ns bound ↔
      n ∈ ns ∧ match bound with
        | none => tight = false
        | some b => b ≤ n ∧ tight = (n == b) := by
  cases bound with
  | none => simp [above, eq_comm]
  | some b => simp [above, and_assoc, eq_comm]

theorem above_sorted (bound : Option Nat) (sorted : ns.Pairwise (· < ·)) :
    (above ns bound).Pairwise fun x y => x.1 < y.1 := by
  cases bound with
  | none => exact List.pairwise_map.2 sorted
  | some b => exact List.pairwise_map.2 (sorted.sublist List.filter_sublist)

/-- The triples of three fields that are tried: those of their numbers that are not before the bound,
and the mark is on the bound itself. -/
theorem mem_triples {x : Triple} {tight : Bool} :
    (x, tight) ∈ triples as bs cs bound ↔
      (x.1 ∈ as ∧ x.2.1 ∈ bs ∧ x.2.2 ∈ cs) ∧ match bound with
        | none => tight = false
        | some b => b.IsBefore x ∧ tight = false ∨ b = x ∧ tight = true := by
  obtain ⟨a, b, c⟩ := x
  cases bound with
  | none => simp [triples, mem_above, and_assoc]
  | some bound =>
    obtain ⟨a', b', c'⟩ := bound
    simp only [triples, List.mem_flatMap, List.mem_map, Prod.exists, mem_above, Option.map_some,
      Prod.mk.injEq, Triple.IsBefore]
    constructor
    · rintro ⟨a, _, ⟨ha, le, rfl⟩, b, _, ⟨hb, second⟩, c, _, ⟨hc, third⟩, ⟨rfl, rfl, rfl⟩, rfl⟩
      refine ⟨⟨ha, hb, hc⟩, ?_⟩
      rcases Nat.lt_or_eq_of_le le with less | rfl
      · obtain rfl : _ = false := by simpa [Nat.ne_of_gt less] using second
        obtain rfl : _ = false := by simpa using third
        exact .inl ⟨.inl less, rfl⟩
      · obtain ⟨le, rfl⟩ : b' ≤ b ∧ _ = (b == b') := by simpa using second
        rcases Nat.lt_or_eq_of_le le with less | rfl
        · obtain rfl : _ = false := by simpa [Nat.ne_of_gt less] using third
          exact .inl ⟨.inr ⟨rfl, .inl less⟩, rfl⟩
        · obtain ⟨le, rfl⟩ : c' ≤ c ∧ _ = (c == c') := by simpa using third
          rcases Nat.lt_or_eq_of_le le with less | rfl
          · exact .inl ⟨.inr ⟨rfl, .inr ⟨rfl, less⟩⟩, by simp [Nat.ne_of_gt less]⟩
          · exact .inr ⟨⟨rfl, rfl, rfl⟩, by simp⟩
    · rintro ⟨⟨ha, hb, hc⟩, ⟨less | ⟨rfl, less | ⟨rfl, less⟩⟩, rfl⟩ | ⟨⟨rfl, rfl, rfl⟩, rfl⟩⟩
      · exact ⟨a, false, ⟨ha, by omega, by simp [Nat.ne_of_gt less]⟩, b, false, ⟨hb, rfl⟩, c, false,
          ⟨hc, rfl⟩, ⟨rfl, rfl, rfl⟩, rfl⟩
      · exact ⟨_, true, ⟨ha, by omega, by simp⟩, b, false,
          ⟨hb, by simp [Nat.ne_of_gt less]; omega⟩, c, false, ⟨hc, rfl⟩, ⟨rfl, rfl, rfl⟩, rfl⟩
      · exact ⟨_, true, ⟨ha, by omega, by simp⟩, _, true, ⟨hb, by simp⟩, c, false,
          ⟨hc, by simp [Nat.ne_of_gt less]; omega⟩, ⟨rfl, rfl, rfl⟩, rfl⟩
      · exact ⟨_, true, ⟨ha, by omega, by simp⟩, _, true, ⟨hb, by simp⟩, _, true, ⟨hc, by simp⟩,
          ⟨rfl, rfl, rfl⟩, rfl⟩

/-- The triples of fields in order are tried in order. -/
theorem triples_sorted (bound : Option Triple) (first : as.Pairwise (· < ·))
    (second : bs.Pairwise (· < ·)) (third : cs.Pairwise (· < ·)) :
    (triples as bs cs bound).Pairwise fun x y => x.1.IsBefore y.1 := by
  refine List.pairwise_flatMap.2 ⟨fun (a, t) _ => ?_, (above_sorted _ first).imp ?_⟩
  · refine List.pairwise_flatMap.2 ⟨fun (b, t) _ => ?_, (above_sorted _ second).imp ?_⟩
    · refine List.pairwise_map.2 ((above_sorted _ third).imp ?_)
      intro (c, _) (c', _) less
      exact .inr ⟨rfl, .inr ⟨rfl, less⟩⟩
    · intro (b, _) (b', _) less x hx y hy
      obtain ⟨_, _, rfl⟩ := List.mem_map.1 hx
      obtain ⟨_, _, rfl⟩ := List.mem_map.1 hy
      exact .inr ⟨rfl, .inl less⟩
  · intro (a, _) (a', _) less x hx y hy
    obtain ⟨_, _, hx⟩ := List.mem_flatMap.1 hx
    obtain ⟨_, _, rfl⟩ := List.mem_map.1 hx
    obtain ⟨_, _, hy⟩ := List.mem_flatMap.1 hy
    obtain ⟨_, _, rfl⟩ := List.mem_map.1 hy
    exact .inl less

end Triples

/-! ## Wall clock times in order -/

section Candidates

variable {s : Schedule} {start t : LocalTime}

/-- The day of a year, a month and a day of the month. -/
def dayOf (x : Triple) : Date := ⟨x.1, x.2.1, x.2.2⟩

/-- Whether a day is one of the calendar, on a weekday on which the schedule fires. -/
def firesOn (s : Schedule) (x : Triple) : Bool :=
  x.2.2 ≤ daysIn x.1 x.2.1 && s.daysOfWeek.contains ((dayOf x).weekday + 1)

/-- The wall clock times that are tried, from a reading on. -/
def candidates (s : Schedule) (start : LocalTime) : List LocalTime :=
  (triples s.years s.months s.daysOfMonth
      (some (start.date.year.toNat, start.date.month, start.date.day))).flatMap fun (day, tight) =>
    if s.firesOn day then
      (triples s.hours s.minutes s.seconds
        (if tight then some (start.hour, start.minute, start.second) else none)).map fun (time, _) =>
          ⟨dayOf day, time.1, time.2.1, time.2.2⟩
    else []

theorem firstTime?_eq {α : Type} (s : Schedule) (start : Option LocalTime)
    (found : Nat → Nat → Nat → Option α) :
    s.firstTime? start found =
      (triples s.hours s.minutes s.seconds
        (start.map fun t => (t.hour, t.minute, t.second))).findSome? fun x =>
          found x.1.1 x.1.2.1 x.1.2.2 := by
  simp only [firstTime?, triples, findSome?_flatMap, List.findSome?_map, Option.map_map,
    Function.comp_def]

theorem firstDay?_eq {α : Type} (s : Schedule) (start : Date) (found : Date → Bool → Option α) :
    s.firstDay? start found =
      (triples s.years s.months s.daysOfMonth
        (some (start.year.toNat, start.month, start.day))).findSome? fun x =>
          if s.firesOn x.1 then found (dayOf x.1) x.2 else none := by
  simp only [firstDay?, triples, findSome?_flatMap, List.findSome?_map, Option.map_some,
    Function.comp_def, firesOn, dayOf]
  rfl

/-- The search gives the instants of the first candidate that the clocks show. -/
theorem firstFrom?_eq (s : Schedule) (z : Zone) (start : LocalTime) (year : 0 ≤ start.date.year) :
    s.firstFrom? z start = (s.candidates start).findSome? fun t =>
      match z.instants t.seconds with
      | [] => none
      | instants => some instants := by
  rw [firstFrom?, if_neg (Int.not_lt.2 year), firstDay?_eq, candidates, findSome?_flatMap]
  congr 1
  funext ⟨day, tight⟩
  cases fires : s.firesOn day with
  | false => simp only [fires, Bool.false_eq_true, if_false, List.findSome?_nil]
  | true =>
    cases tight <;>
      simp only [fires, if_true, Bool.false_eq_true, if_false, firstTime?_eq, List.findSome?_map,
        Option.map_some, Option.map_none] <;> rfl

/-- What it takes to be a candidate: the day is tried and fires, and the time of day is tried. -/
theorem mem_candidates_iff : t ∈ s.candidates start ↔
    ∃ (day : Triple) (tight : Bool) (time : Triple) (last : Bool),
      (day, tight) ∈ triples s.years s.months s.daysOfMonth
        (some (start.date.year.toNat, start.date.month, start.date.day)) ∧
      s.firesOn day = true ∧
      (time, last) ∈ triples s.hours s.minutes s.seconds
        (if tight then some (start.hour, start.minute, start.second) else none) ∧
      t = ⟨dayOf day, time.1, time.2.1, time.2.2⟩ := by
  simp only [candidates, List.mem_flatMap]
  constructor
  · rintro ⟨⟨day, tight⟩, tried, ht⟩
    cases fires : s.firesOn day with
    | false => simp [fires] at ht
    | true =>
      simp only [fires, if_true] at ht
      obtain ⟨⟨time, last⟩, member, rfl⟩ := List.mem_map.1 ht
      exact ⟨day, tight, time, last, tried, fires, member, rfl⟩
  · rintro ⟨day, tight, time, last, tried, fires, member, rfl⟩
    refine ⟨(day, tight), tried, ?_⟩
    simp only [fires, if_true]
    exact List.mem_map.2 ⟨(time, last), member, rfl⟩

theorem isMatch_iff : s.isMatch t = true ↔
    0 ≤ t.date.year ∧
      (t.date.year.toNat ∈ s.years ∧ t.date.month ∈ s.months ∧ t.date.day ∈ s.daysOfMonth ∧
        t.date.weekday + 1 ∈ s.daysOfWeek) ∧
      t.hour ∈ s.hours ∧ t.minute ∈ s.minutes ∧ t.second ∈ s.seconds := by
  simp only [isMatch, matchesDay, Bool.and_eq_true, decide_eq_true_eq, List.contains_iff_mem,
    and_assoc]

/-- Every candidate is a reading that the schedule matches, not before the start. -/
theorem isMatch_of_mem_candidates (wf : s.IsWellFormed) (year : 0 ≤ start.date.year)
    (h : t ∈ s.candidates start) :
    t.IsValid ∧ s.isMatch t = true ∧ (start.IsBefore t ∨ start = t) := by
  obtain ⟨⟨y, m, d⟩, tight, ⟨hour, minute, second⟩, last, tried, fires, member, rfl⟩ :=
    mem_candidates_iff.1 h
  obtain ⟨⟨hy, hm, hd⟩, day⟩ := mem_triples.1 tried
  obtain ⟨⟨hh, hmin, hsec⟩, time⟩ := mem_triples.1 member
  obtain ⟨inMonth, weekday⟩ : d ≤ daysIn y m ∧ (dayOf (y, m, d)).weekday + 1 ∈ s.daysOfWeek := by
    simpa [firesOn] using fires
  have validMonth : 1 ≤ m ∧ m ≤ 12 := wf.inside .month m hm
  have validDay : 1 ≤ d ∧ d ≤ 31 := wf.inside .dayOfMonth d hd
  have validHour : 0 ≤ hour ∧ hour ≤ 23 := wf.inside .hour hour hh
  have validMinute : 0 ≤ minute ∧ minute ≤ 59 := wf.inside .minute minute hmin
  have validSecond : 0 ≤ second ∧ second ≤ 59 := wf.inside .second second hsec
  refine ⟨?_, ?_, ?_⟩
  · exact {
      date := ⟨validMonth.1, validMonth.2, validDay.1, inMonth⟩
      hour := validHour.2
      minute := validMinute.2
      second := validSecond.2 }
  · exact isMatch_iff.2 ⟨Int.natCast_nonneg y, ⟨hy, hm, hd, weekday⟩, hh, hmin, hsec⟩
  · obtain ⟨⟨y', m', d'⟩, hour', minute', second'⟩ := start
    have same : (y'.toNat : Int) = y' := Int.toNat_of_nonneg year
    rcases day with ⟨before, rfl⟩ | ⟨equal, rfl⟩
    · left
      left
      simp only [Triple.IsBefore] at before
      simp only [dayOf, Date.IsBefore]
      omega
    · obtain ⟨rfl, rfl, rfl⟩ : y'.toNat = y ∧ m' = m ∧ d' = d := by simpa using equal
      simp only [if_true, Triple.IsBefore, Prod.mk.injEq] at time
      simp only [dayOf, same, LocalTime.IsBefore, LocalTime.mk.injEq, true_and]
      rcases time with ⟨before, -⟩ | ⟨equal, -⟩
      · exact .inl (.inr before)
      · exact .inr equal

/-- All readings that the schedule matches, from the start on, are candidates. -/
theorem mem_candidates_of_isMatch (valid : t.IsValid) (year : 0 ≤ start.date.year)
    (fires : s.isMatch t = true) (h : start.IsBefore t ∨ start = t) : t ∈ s.candidates start := by
  obtain ⟨nonneg, ⟨hy, hm, hd, weekday⟩, hh, hmin, hsec⟩ := isMatch_iff.1 fires
  obtain ⟨⟨y', m', d'⟩, hour', minute', second'⟩ := start
  obtain ⟨⟨y, m, d⟩, hour, minute, second⟩ := t
  obtain ⟨y, rfl⟩ := Int.eq_ofNat_of_zero_le nonneg
  obtain ⟨y', rfl⟩ := Int.eq_ofNat_of_zero_le year
  have inMonth : d ≤ daysIn y m := valid.date.day_le
  have firesOn : s.firesOn (y, m, d) = true := by
    simp only [Schedule.firesOn, Bool.and_eq_true, decide_eq_true_eq, List.contains_iff_mem]
    exact ⟨inMonth, weekday⟩
  have tried (tight : Bool)
      (order : Triple.IsBefore (y', m', d') (y, m, d) ∧ tight = false ∨
        ((y', m', d') : Triple) = (y, m, d) ∧ tight = true) :
      ((y, m, d), tight) ∈ triples s.years s.months s.daysOfMonth (some (y', m', d')) :=
    mem_triples.2 ⟨⟨hy, hm, hd⟩, order⟩
  apply mem_candidates_iff.2
  rcases h with (before | ⟨equal, before⟩) | equal
  · refine ⟨(y, m, d), false, (hour, minute, second), false, tried false (.inl ⟨?_, rfl⟩), firesOn,
      mem_triples.2 ⟨⟨hh, hmin, hsec⟩, rfl⟩, rfl⟩
    simp only [Date.IsBefore] at before
    simp only [Triple.IsBefore]
    omega
  · obtain ⟨rfl, rfl, rfl⟩ : y' = y ∧ m' = m ∧ d' = d := by simpa using equal
    exact ⟨_, true, (hour, minute, second), false, tried true (.inr ⟨rfl, rfl⟩), firesOn,
      mem_triples.2 ⟨⟨hh, hmin, hsec⟩, .inl ⟨before, rfl⟩⟩, rfl⟩
  · cases equal
    exact ⟨_, true, (hour', minute', second'), true, tried true (.inr ⟨rfl, rfl⟩), firesOn,
      mem_triples.2 ⟨⟨hh, hmin, hsec⟩, .inr ⟨rfl, rfl⟩⟩, rfl⟩

/-- Candidates come in the order of their counts. -/
theorem candidates_sorted (wf : s.IsWellFormed) (year : 0 ≤ start.date.year) :
    (s.candidates start).Pairwise fun t u => t.seconds < u.seconds := by
  have ordered : (s.candidates start).Pairwise LocalTime.IsBefore := by
    refine List.pairwise_flatMap.2 ⟨fun (day, tight) _ => ?_, ?_⟩
    · simp only
      split
      · refine List.pairwise_map.2 ((triples_sorted _ (wf.sorted .hour) (wf.sorted .minute)
          (wf.sorted .second)).imp ?_)
        intro (x, _) (y, _) before
        exact .inr ⟨rfl, before⟩
      · exact List.Pairwise.nil
    · apply (triples_sorted _ (wf.sorted .year) (wf.sorted .month) (wf.sorted .dayOfMonth)).imp
      intro (x, _) (y, _) before t ht u hu
      have day : t.date = dayOf x := by
        simp only at ht
        split at ht
        · obtain ⟨_, _, rfl⟩ := List.mem_map.1 ht
          rfl
        · cases ht
      have day' : u.date = dayOf y := by
        simp only at hu
        split at hu
        · obtain ⟨_, _, rfl⟩ := List.mem_map.1 hu
          rfl
        · cases hu
      refine .inl ?_
      rw [day, day']
      simpa [Date.IsBefore, dayOf, Triple.IsBefore] using before
  apply ordered.imp_of_mem
  intro t u ht hu before
  exact before.seconds_lt (isMatch_of_mem_candidates wf year ht).1
    (isMatch_of_mem_candidates wf year hu).1

end Candidates

end FlagAlerts.Schedule
