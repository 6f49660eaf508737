import FlagAlerts.Calendar.Zone
import Mathlib.Data.List.Basic

/-!
# The instants of a reading

The instants that are looked up for a reading are those at which the zone's clocks show it, in
order.
-/

namespace FlagAlerts.Calendar.Zone

variable {z : Zone} {instant reading : Int}

/-- An offset at some instant is the first one or that of a change. -/
theorem offsetAt_mem (z : Zone) (instant : Int) : z.offsetAt instant ∈ z.offsets := by
  have held : ∀ (changes : List OffsetChange) (offset : Int),
      changes.foldl (fun offset c => if c.instant ≤ instant then c.offset else offset) offset ∈
        offset :: changes.map (·.offset) := by
    intro changes
    induction changes with
    | nil =>
      intro offset
      exact List.mem_singleton_self offset
    | cons c rest ih =>
      intro offset
      rw [List.foldl_cons, List.map_cons]
      split
      · exact List.mem_cons_of_mem _ (ih c.offset)
      · rcases List.mem_cons.1 (ih offset) with same | later
        · rw [same]
          exact List.mem_cons_self
        · exact List.mem_cons_of_mem _ (List.mem_cons_of_mem _ later)
  exact List.mem_eraseDups.2 (held z.changes z.first)

/-- The instants of a reading are those at which it is shown. -/
theorem mem_instants : instant ∈ z.instants reading ↔ z.reading instant = reading := by
  simp only [instants, List.mem_mergeSort, List.mem_filter, List.mem_map, beq_iff_eq]
  constructor
  · exact And.right
  · intro shown
    refine ⟨⟨z.offsetAt instant, offsetAt_mem z instant, ?_⟩, shown⟩
    rw [← shown, Zone.reading]
    omega

theorem instants_sorted (z : Zone) (reading : Int) : (z.instants reading).Pairwise (· ≤ ·) := by
  have sorted : (z.instants reading).Pairwise fun a b => decide (a ≤ b) = true := List.pairwise_mergeSort
    (by intro a b c; simp only [decide_eq_true_eq]; omega)
    (by intro a b; simp only [Bool.or_eq_true, decide_eq_true_eq]; omega)
    ((z.offsets.map (reading - ·)).filter (z.reading · == reading))
  exact sorted.imp of_decide_eq_true

/-- The first instant of a reading is the earliest at which it is shown. -/
theorem head?_instants : (z.instants reading).head? = some instant ↔
    z.reading instant = reading ∧ ∀ other, z.reading other = reading → instant ≤ other := by
  have sorted := instants_sorted z reading
  have shown (i : Int) : i ∈ z.instants reading ↔ z.reading i = reading := mem_instants
  cases found : z.instants reading with
  | nil =>
    rw [found] at shown
    constructor
    · intro none
      cases none
    · rintro ⟨same, -⟩
      cases (shown instant).2 same
  | cons first rest =>
    rw [found] at shown sorted
    have earliest : ∀ other ∈ first :: rest, first ≤ other := by
      intro other member
      rcases List.mem_cons.1 member with rfl | later
      · exact Int.le_refl _
      · exact List.rel_of_pairwise_cons sorted later
    rw [List.head?_cons, Option.some.injEq]
    constructor
    · rintro rfl
      exact ⟨(shown first).1 List.mem_cons_self, fun other h => earliest other ((shown other).2 h)⟩
    · rintro ⟨same, least⟩
      have upper := earliest instant ((shown instant).2 same)
      have lower := least first ((shown first).1 List.mem_cons_self)
      omega

/-! ## Clocks that are never set back -/

/-- The zone's clocks go forward from each instant to every later one. -/
def IsNeverSetBack (z : Zone) : Prop := ∀ t u, t < u → z.reading t < z.reading u

theorem IsNeverSetBack.reading_le (h : z.IsNeverSetBack) {t u : Int} (order : t ≤ u) :
    z.reading t ≤ z.reading u := by
  rcases Int.lt_or_eq_of_le order with before | rfl
  · exact Int.le_of_lt (h t u before)
  · exact Int.le_refl _

theorem IsNeverSetBack.le_of_reading_le (h : z.IsNeverSetBack) {t u : Int}
    (order : z.reading t ≤ z.reading u) : t ≤ u := by
  by_contra later
  have reads := h u t (Int.not_le.1 later)
  omega

end FlagAlerts.Calendar.Zone
