import FlagAlerts.Schedule.Basic
import Mathlib.Data.List.Forall2

/-!
# The fields of schedules that were read

Every schedule that a text stands for has the numbers of each unit in order, each once, and within
the limits of the unit.
-/

namespace FlagAlerts.Schedule

/-- The numbers of every unit are in order and within its limits. -/
structure IsWellFormed (s : Schedule) : Prop where
  sorted : ∀ u : TimeUnit, (s.numbers u).Pairwise (· < ·)
  inside : ∀ (u : TimeUnit), ∀ n ∈ s.numbers u, u.least ≤ n ∧ n ≤ u.greatest

/-- The numbers of a field are numbers of the unit, in order. -/
theorem numbersOf?_sublist {u : TimeUnit} {items : List Item} {ns : List Nat}
    (h : numbersOf? u items = some ns) : ns.Sublist u.numbers := by
  obtain ⟨progressions, -, rest⟩ := Option.bind_eq_some_iff.1 h
  obtain rfl := Option.some.inj rest
  exact List.filter_sublist

/-- Every member of a list that is related to another one by one has its counterpart there. -/
theorem exists_of_forall₂ {α β : Type} {R : α → β → Prop} {as : List α} {bs : List β}
    (each : List.Forall₂ R as bs) {a : α} (member : a ∈ as) : ∃ b ∈ bs, R a b := by
  induction each with
  | nil => cases member
  | @cons a' b' as bs related rest ih =>
    rcases List.mem_cons.1 member with rfl | later
    · exact ⟨b', List.mem_cons_self, related⟩
    · obtain ⟨b, inside, own⟩ := ih later
      exact ⟨b, List.mem_cons_of_mem b' inside, own⟩

/-- A list is read if every member is, one by one. -/
theorem mapM_eq_some {α β : Type} {f : α → Option β} {as : List α} {bs : List β} :
    as.mapM f = some bs ↔ List.Forall₂ (fun a b => f a = some b) as bs := by
  induction as generalizing bs with
  | nil =>
    rw [List.mapM_nil, List.forall₂_nil_left_iff]
    exact Option.some_inj.trans eq_comm
  | cons a rest ih =>
    rw [List.mapM_cons, List.forall₂_cons_left_iff]
    constructor
    · intro h
      obtain ⟨b, first, h⟩ := Option.bind_eq_some_iff.1 h
      obtain ⟨others, h', same⟩ := Option.bind_eq_some_iff.1 h
      exact ⟨b, others, first, ih.1 h', (Option.some.inj same).symm⟩
    · rintro ⟨b, others, first, later, rfl⟩
      rw [first, ih.2 later]
      rfl

/-- A field stands for the numbers of the unit that lie on one of its items. -/
theorem mem_numbersOf? {u : TimeUnit} {items : List Item} {ns : List Nat} {n : Nat}
    (h : numbersOf? u items = some ns) :
    n ∈ ns ↔ n ∈ u.numbers ∧ ∃ item ∈ items, ∃ p, item.progression? u = some p ∧
      p.contains n = true := by
  obtain ⟨progressions, reading, rest⟩ := Option.bind_eq_some_iff.1 h
  obtain rfl := Option.some.inj rest
  have each := mapM_eq_some.1 reading
  rw [List.mem_filter, List.any_eq_true]
  refine and_congr_right fun _ => ⟨?_, ?_⟩
  · rintro ⟨p, member, contained⟩
    obtain ⟨item, own, same⟩ := exists_of_forall₂ each.flip member
    exact ⟨item, own, p, same, contained⟩
  · rintro ⟨item, member, p, same, contained⟩
    obtain ⟨q, own, same'⟩ := exists_of_forall₂ each member
    rw [same] at same'
    exact ⟨q, own, Option.some.inj same' ▸ contained⟩

theorem numbersOf?_sorted {u : TimeUnit} {items : List Item} {ns : List Nat}
    (h : numbersOf? u items = some ns) : ns.Pairwise (· < ·) :=
  (List.pairwise_lt_range' (s := u.least)).sublist (numbersOf?_sublist h)

theorem numbersOf?_inside {u : TimeUnit} {items : List Item} {ns : List Nat}
    (h : numbersOf? u items = some ns) : ∀ n ∈ ns, u.least ≤ n ∧ n ≤ u.greatest := by
  intro n hn
  have member := (numbersOf?_sublist h).subset hn
  simp only [TimeUnit.numbers, List.mem_range'_1] at member
  omega

/-- A schedule has the numbers of the fields that it was made from. -/
theorem ofExpression?_fields {e : Expression} {s : Schedule} (h : ofExpression? e = some s)
    (u : TimeUnit) : ∃ items, numbersOf? u items = some (s.numbers u) := by
  simp only [ofExpression?, Option.bind_eq_bind, Option.bind_eq_some_iff, Option.pure_def,
    Option.some.injEq] at h
  obtain ⟨seconds, h1, minutes, h2, hours, h3, days, h4, months, h5, weekdays, h6, years, h7, rfl⟩ := h
  cases u with
  | second => exact ⟨_, h1⟩
  | minute => exact ⟨_, h2⟩
  | hour => exact ⟨_, h3⟩
  | dayOfMonth => exact ⟨_, h4⟩
  | month => exact ⟨_, h5⟩
  | dayOfWeek => exact ⟨_, h6⟩
  | year => exact ⟨_, h7⟩

/-- Every schedule that a text stands for is well formed. -/
theorem parse?_wellFormed {text : String} {s : Schedule} (h : parse? text = some s) :
    s.IsWellFormed := by
  obtain ⟨e, -, made⟩ := Option.bind_eq_some_iff.1 h
  refine ⟨fun u => ?_, fun u => ?_⟩
  · obtain ⟨items, field⟩ := ofExpression?_fields made u
    exact numbersOf?_sorted field
  · obtain ⟨items, field⟩ := ofExpression?_fields made u
    exact numbersOf?_inside field

end FlagAlerts.Schedule
