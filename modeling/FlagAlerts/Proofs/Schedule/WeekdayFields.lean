import FlagAlerts.Proofs.Schedule.Fields
import FlagAlerts.Proofs.Schedule.Weekday

/-!
# Fields of weekdays

A field that the translation can read is expanded to the days of its standard meaning. Any other
field is taken as it is, and has the days that its items mean where numbers count from Sunday as 1.
-/

namespace FlagAlerts.Schedule.Weekday

open FlagAlerts.Text

/-! ## Fields that are not translated -/

section Untranslated

variable {sunday : Nat} {run text : List Char} {n : Nat}

theorem dayFrom?_of_numeral (early : sunday ≤ 1) (numeral : IsNumeral run n) {k : Nat}
    (known : TimeUnit.dayOfWeek.check? n = some k) :
    dayFrom? sunday run = some (n - sunday) ∧ k = n ∧ 1 ≤ n ∧ n ≤ 7 := by
  unfold TimeUnit.check? at known
  split at known
  next inside =>
    cases known
    rw [Bool.and_eq_true, decide_eq_true_eq, decide_eq_true_eq] at inside
    have limits : 1 ≤ n ∧ n ≤ 7 := inside
    refine ⟨?_, rfl, limits⟩
    unfold dayFrom?
    rw [readNat?_of_numeral numeral numeral.small]
    exact if_pos ⟨by omega, limits.2⟩
  next => cases known

theorem dayFrom?_of_name (sunday : Nat) {s : String} (letters : IsName run s) {k : Nat}
    (known : TimeUnit.dayOfWeek.ofName? s = some k) :
    dayFrom? sunday run = some (k - 1) ∧ 1 ≤ k ∧ k ≤ 7 := by
  constructor
  · unfold dayFrom?
    rw [readNat?_of_name letters, letters.value, known]
    rfl
  · obtain ⟨i, found, rfl⟩ := Option.map_eq_some_iff.1 known
    obtain ⟨inside, -⟩ := List.findIdx?_eq_some_iff_getElem.1 found
    have seven : TimeUnit.dayOfWeek.names.length = 7 := rfl
    have first : TimeUnit.dayOfWeek.least = 1 := rfl
    omega

/-- The bounds of a span count from Sunday as 1. -/
theorem spans_of_bounds (early : sunday ≤ 1) {span : Span} (spells : SpellsSpan true span text)
    {hasStep : Bool} (unnamed : hasStep = true → ∀ s, span ≠ .name s) {first last : Nat}
    (bounds : Item.bounds? .dayOfWeek hasStep span = some (first, last)) (ascends : first ≤ last) :
    ∃ f l, Spans (dayFrom? sunday) hasStep text f l ∧
      (sunday = 1 → first = f + 1 ∧ last = l + 1) := by
  cases spells with
  | all =>
    cases bounds
    exact ⟨0, 6, .all (.inl rfl), fun _ => ⟨rfl, rfl⟩⟩
  | any =>
    cases bounds
    exact ⟨0, 6, .all (.inr rfl), fun _ => ⟨rfl, rfl⟩⟩
  | point numeral =>
    obtain ⟨k, known, same⟩ := Option.bind_eq_some_iff.1 bounds
    obtain ⟨own, rfl, low, high⟩ := dayFrom?_of_numeral early numeral known
    refine ⟨_, _, .day own, ?_⟩
    rintro rfl
    have greatest : TimeUnit.dayOfWeek.greatest = 7 := rfl
    obtain ⟨rfl, rfl⟩ := Prod.mk.inj (Option.some.inj same)
    cases hasStep
    · simp only [Bool.false_eq_true, if_false]
      omega
    · simp only [if_true]
      omega
  | range fst snd =>
    obtain ⟨a, knownFirst, rest⟩ := Option.bind_eq_some_iff.1 bounds
    obtain ⟨b, knownLast, same⟩ := Option.bind_eq_some_iff.1 rest
    cases same
    obtain ⟨ownFirst, rfl, low, -⟩ := dayFrom?_of_numeral early fst knownFirst
    obtain ⟨ownLast, rfl, low', -⟩ := dayFrom?_of_numeral early snd knownLast
    refine ⟨_, _, .range ownFirst ownLast (by omega), ?_⟩
    rintro rfl
    omega
  | name letters =>
    obtain ⟨k, known, same⟩ := Option.bind_eq_some_iff.1 bounds
    obtain ⟨own, low, high⟩ := dayFrom?_of_name sunday letters known
    cases same
    cases hasStep with
    | true => exact absurd rfl (unnamed rfl _)
    | false =>
      refine ⟨_, _, .day own, ?_⟩
      rintro -
      simp only [Bool.false_eq_true, if_false]
      omega
  | nameRange fst snd =>
    obtain ⟨a, knownFirst, rest⟩ := Option.bind_eq_some_iff.1 bounds
    obtain ⟨b, knownLast, same⟩ := Option.bind_eq_some_iff.1 rest
    cases same
    obtain ⟨ownFirst, low, -⟩ := dayFrom?_of_name sunday fst knownFirst
    obtain ⟨ownLast, low', -⟩ := dayFrom?_of_name sunday snd knownLast
    refine ⟨_, _, .range ownFirst ownLast (by omega), ?_⟩
    rintro -
    omega

/-- An item that a schedule can be made of means the days that it stands for there, and means some
days in the standard as well. -/
theorem denotes_of_progression (early : sunday ≤ 1) {item : Item} (spells : SpellsItem true item text)
    {p : Progression} (means : item.progression? .dayOfWeek = some p) :
    ∃ q, Denotes (dayFrom? sunday) text q ∧
      (sunday = 1 → p = ⟨q.first + 1, q.last + 1, q.step⟩) := by
  unfold Item.progression? at means
  cases spells with
  | whole span =>
    obtain ⟨⟨first, last⟩, bounds, rest⟩ := Option.bind_eq_some_iff.1 means
    dsimp only at rest
    split at rest
    next ascends =>
      cases rest
      obtain ⟨f, l, spans, shift⟩ := spans_of_bounds early span (by simp) bounds ascends
      refine ⟨_, .whole spans, fun same => ?_⟩
      obtain ⟨rfl, rfl⟩ := shift same
      rfl
    next => cases rest
  | @stepped _ _ _ step span unnamed numeral =>
    dsimp only [Option.getD_some, Option.isSome_some] at means
    split at means
    next => cases means
    next possible =>
      obtain ⟨⟨first, last⟩, bounds, rest⟩ := Option.bind_eq_some_iff.1 means
      dsimp only at rest
      split at rest
      next ascends =>
        cases rest
        have number : readNat? maxUInt64 _ = some step :=
          readNat?_of_numeral numeral (Nat.le_trans numeral.small (by decide))
        have positive : 0 < step := by
          simp only [Bool.true_and, Bool.not_eq_true', Bool.not_eq_false, Bool.and_eq_true,
            decide_eq_true_eq] at possible
          omega
        obtain ⟨f, l, spans, shift⟩ := spans_of_bounds early span (fun _ => unnamed) bounds ascends
        refine ⟨_, .stepped spans number positive, fun same => ?_⟩
        obtain ⟨rfl, rfl⟩ := shift same
        rfl
      next => cases rest

/-- A day is no later than Saturday if numbers count from Sunday as 1. -/
theorem dayFrom?_le {token : List Char} {d : Nat} (own : dayFrom? 1 token = some d) : d ≤ 6 := by
  unfold dayFrom? at own
  split at own
  next n _ =>
    split at own
    next inside =>
      cases own
      omega
    next => cases own
  next =>
    obtain ⟨k, known, rfl⟩ := Option.map_eq_some_iff.1 own
    obtain ⟨i, found, rfl⟩ := Option.map_eq_some_iff.1 known
    obtain ⟨inside, -⟩ := List.findIdx?_eq_some_iff_getElem.1 found
    have seven : TimeUnit.dayOfWeek.names.length = 7 := rfl
    have first : TimeUnit.dayOfWeek.least = 1 := rfl
    omega

theorem Denotes.last_le {p : Progression} (denotes : Denotes (dayFrom? 1) text p) : p.last ≤ 6 := by
  have spanned {hasStep : Bool} {text : List Char} {first last : Nat}
      (spans : Spans (dayFrom? 1) hasStep text first last) : last ≤ 6 := by
    cases spans with
    | all => exact Nat.le_refl 6
    | day own =>
      have early := dayFrom?_le own
      split <;> omega
    | range _ snd _ => exact dayFrom?_le snd
  cases denotes with
  | whole spans => exact spanned spans
  | stepped spans => exact spanned spans

theorem contains_succ (first last step : Nat) :
    (⟨first + 1, last + 1, step⟩ : Progression).contains (n + 1) =
      (⟨first, last, step⟩ : Progression).contains n := by
  simp [Progression.contains]

section Field

variable {field : String} {items : List Item} {ns : List Nat}

/-- Every item that a schedule is made of is one of its field that means some days. -/
theorem denotes_of_field (early : sunday ≤ 1) (spells : SpellsField true items field.toList)
    (made : numbersOf? .dayOfWeek items = some ns) {piece : List Char}
    (member : piece ∈ splitOn ',' field.toList) :
    ∃ item ∈ items, ∃ p, item.progression? .dayOfWeek = some p ∧
      ∃ q, Denotes (dayFrom? sunday) piece q ∧
        (sunday = 1 → p = ⟨q.first + 1, q.last + 1, q.step⟩) := by
  obtain ⟨item, own, spelled⟩ := exists_of_forall₂ spells.pieces.flip member
  obtain ⟨progressions, reading, -⟩ := Option.bind_eq_some_iff.1 made
  obtain ⟨p, -, means⟩ := exists_of_forall₂ (mapM_eq_some.1 reading) own
  obtain ⟨q, denotes, shift⟩ := denotes_of_progression early spelled means
  exact ⟨item, own, p, means, q, denotes, shift⟩

/-- A field that is taken as it is stands for the days that its items mean where numbers count from
Sunday as 1. -/
theorem mem_of_untranslated (spells : SpellsField true items field.toList)
    (made : numbersOf? .dayOfWeek items = some ns) (day : n < 7) :
    n + 1 ∈ ns ↔ StandsFor 1 field n := by
  have number : n + 1 ∈ TimeUnit.dayOfWeek.numbers := by
    simp only [TimeUnit.numbers, TimeUnit.least, TimeUnit.greatest, List.mem_range'_1]
    omega
  rw [mem_numbersOf? made]
  constructor
  · rintro ⟨-, item, own, p, means, contained⟩
    obtain ⟨piece, member, spelled⟩ := exists_of_forall₂ spells.pieces own
    obtain ⟨q, denotes, shift⟩ := denotes_of_progression (Nat.le_refl 1) spelled means
    rw [shift rfl, contains_succ] at contained
    exact ⟨piece, member, q, denotes, n, contained, Nat.mod_eq_of_lt day⟩
  · rintro ⟨piece, member, q, denotes, d, contained, same⟩
    obtain ⟨item, own, p, means, q', denotes', shift⟩ :=
      denotes_of_field (Nat.le_refl 1) spells made member
    obtain rfl := denotes.unique (dayFrom?_plain 1) denotes'
    have early : d ≤ 6 := by
      have last := denotes.last_le
      simp only [Progression.contains, Bool.and_eq_true, decide_eq_true_eq] at contained
      omega
    rw [Nat.mod_eq_of_lt (by omega)] at same
    subst same
    refine ⟨number, item, own, p, means, ?_⟩
    rw [shift rfl, contains_succ]
    exact contained

end Field

end Untranslated

/-! ## Fields that are translated -/

section Translated

variable {field : String} {n : Nat}

/-- The items of a list of days, which count from Sunday as 1. -/
def dayItems (days : List Nat) : List Item := days.map fun d => ⟨.point (d + 1), none⟩

theorem spells_day {d : Nat} (early : d < 7) :
    SpellsItem true ⟨.point (d + 1), none⟩ (decimal (d + 1)).toList := by
  rw [toList_decimal]
  refine .whole (.point ⟨digits_ne_nil _, isDigit_of_mem_digits _, ofDigits_digits _, ?_⟩)
  exact Nat.le_trans early (by decide)

/-- A list of days is spelled as their numbers with commas between them. -/
theorem spells_dayItems {days : List Nat} (some : days ≠ []) (early : ∀ d ∈ days, d < 7) :
    SpellsField true (dayItems days)
      (",".intercalate (days.map fun d => decimal (d + 1))).toList := by
  induction days with
  | nil => exact absurd rfl some
  | cons d rest ih =>
    have first := spells_day (early d List.mem_cons_self)
    cases rest with
    | nil =>
      rw [List.map_singleton, String.intercalate_singleton, ← List.append_nil (String.toList _)]
      exact .items first .nil
    | cons d' rest =>
      have later := ih (by simp) fun x hx => early x (List.mem_cons_of_mem d hx)
      rw [List.map_cons, List.map_cons, String.intercalate_cons_cons, String.toList_append,
        String.toList_append, List.append_assoc]
      have comma : ",".toList = [','] := rfl
      rw [List.map_cons] at later
      rw [comma, List.singleton_append]
      generalize (String.intercalate "," _).toList = text at later ⊢
      cases later with
      | items second others => exact .items first (.cons second others)

/-- A list of days stands for these days. -/
theorem mem_dayItems {days : List Nat} (early : ∀ d ∈ days, d < 7) :
    ∃ ns, numbersOf? .dayOfWeek (dayItems days) = some ns ∧ ∀ n < 7, n + 1 ∈ ns ↔ n ∈ days := by
  have means : ∀ d < 7, (⟨.point (d + 1), none⟩ : Item).progression? .dayOfWeek =
      some ⟨d + 1, d + 1, 1⟩ := by decide
  have reading : (dayItems days).mapM (·.progression? .dayOfWeek) =
      some (days.map fun d => ⟨d + 1, d + 1, 1⟩) := by
    rw [mapM_eq_some, dayItems, List.forall₂_map_left_iff, List.forall₂_map_right_iff,
      List.forall₂_same]
    exact fun d hd => means d (early d hd)
  obtain ⟨ns, made⟩ : ∃ ns, numbersOf? .dayOfWeek (dayItems days) = some ns := by
    unfold numbersOf?
    rw [reading]
    exact ⟨_, rfl⟩
  refine ⟨ns, made, fun n day => ?_⟩
  have number : n + 1 ∈ TimeUnit.dayOfWeek.numbers := by
    simp only [TimeUnit.numbers, TimeUnit.least, TimeUnit.greatest, List.mem_range'_1]
    omega
  rw [mem_numbersOf? made]
  constructor
  · rintro ⟨-, item, own, p, same, contained⟩
    obtain ⟨d, member, rfl⟩ := List.mem_map.1 own
    rw [means d (early d member)] at same
    cases same
    simp only [Progression.contains, Bool.and_eq_true, decide_eq_true_eq] at contained
    obtain rfl : d = n := by omega
    exact member
  · intro member
    refine ⟨number, _, List.mem_map.2 ⟨n, member, rfl⟩, _, means n day, ?_⟩
    simp [Progression.contains]

/-- The items of a field that can be translated are read as the days that they mean in the
standard. -/
theorem exists_days_of_translated
    (translated : ∀ item ∈ splitOn ',' field.toList, '?' ∉ item ∧ ∃ p, Denotes day? item p) :
    ∃ dss, (splitOn ',' field.toList).mapM days? = some dss ∧
      ∀ n, n ∈ dss.flatten ↔ StandsFor 0 field n := by
  have each : ∀ item ∈ splitOn ',' field.toList, days? item = some ((days? item).getD []) := by
    intro item member
    obtain ⟨unasked, p, denotes⟩ := translated item member
    rw [days?_eq_some.2 ⟨unasked, p, denotes, rfl⟩]
    rfl
  refine ⟨(splitOn ',' field.toList).map fun item => (days? item).getD [], ?_, fun n => ?_⟩
  · rw [mapM_eq_some, List.forall₂_map_right_iff, List.forall₂_same]
    exact each
  · simp only [List.mem_flatten, List.mem_map, exists_exists_and_eq_and]
    refine exists_congr fun item => and_congr_right fun member => ?_
    obtain ⟨-, p, denotes, same⟩ := days?_eq_some.1 (each item member)
    rw [same, mem_daysOf]
    constructor
    · intro some
      exact ⟨p, denotes.standard, some⟩
    · rintro ⟨q, denotes', some⟩
      rw [denotes.standard.unique (dayFrom?_plain 0) denotes']
      exact some

/-- A field that can be translated stands for some day: the first one of its first item. -/
theorem exists_standsFor_of_translated
    (translated : ∀ item ∈ splitOn ',' field.toList, '?' ∉ item ∧ ∃ p, Denotes day? item p) :
    ∃ n < 7, StandsFor 0 field n := by
  obtain ⟨item, pieces, split⟩ := List.exists_cons_of_ne_nil (splitOn_ne_nil ',' field.toList)
  have member : item ∈ splitOn ',' field.toList := by
    rw [split]
    exact List.mem_cons_self
  obtain ⟨-, p, denotes⟩ := translated item member
  refine ⟨p.first % 7, Nat.mod_lt _ (by decide), item, member, p, denotes.standard, p.first, ?_, rfl⟩
  simp [Progression.contains, denotes.ascends]

/-- A field that can be translated is expanded to the days that its items mean in the standard. -/
theorem expand_of_translated (plain : field ≠ "*" ∧ field ≠ "?")
    (translated : ∀ item ∈ splitOn ',' field.toList, '?' ∉ item ∧ ∃ p, Denotes day? item p) :
    ∃ days, SpellsField true (dayItems days) (expand field).toList ∧ (∀ d ∈ days, d < 7) ∧
      ∀ n < 7, n ∈ days ↔ StandsFor 0 field n := by
  obtain ⟨dss, reading, meant⟩ := exists_days_of_translated translated
  let days := (List.range 7).filter (dss.flatten.contains ·)
  have listed (n : Nat) : n ∈ days ↔ n < 7 ∧ StandsFor 0 field n := by
    rw [List.mem_filter, List.mem_range, List.contains_iff_mem, meant]
  have expanded : expand field = ",".intercalate (days.map fun d => decimal (d + 1)) := by
    unfold expand
    rw [if_neg (by simp [plain]), reading]
  have some : days ≠ [] := by
    obtain ⟨n, day, stands⟩ := exists_standsFor_of_translated translated
    exact List.ne_nil_of_mem ((listed n).2 ⟨day, stands⟩)
  refine ⟨days, ?_, fun d hd => ((listed d).1 hd).1, fun n day => ?_⟩
  · rw [expanded]
    exact spells_dayItems some fun d hd => ((listed d).1 hd).1
  · rw [listed]
    exact and_iff_right day

/-- A field that cannot be translated is taken as it is. -/
theorem expand_of_untranslated (untranslated : ¬ IsTranslated field) : expand field = field := by
  unfold expand
  split
  next => rfl
  next =>
    split
    next => rfl
    next days reading =>
      refine absurd (.inr (.inr fun item member => ?_)) untranslated
      obtain ⟨ds, -, read⟩ := exists_of_forall₂ (mapM_eq_some.1 reading) member
      obtain ⟨unasked, p, denotes, -⟩ := days?_eq_some.1 read
      exact ⟨unasked, p, denotes⟩

end Translated

end FlagAlerts.Schedule.Weekday
