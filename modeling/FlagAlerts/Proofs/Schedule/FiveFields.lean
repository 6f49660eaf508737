import FlagAlerts.Proofs.Schedule.WeekdayFields

/-!
# Schedules of five fields

A text of five fields is a schedule of six with a zero before them, whose weekdays are translated.
The weekdays are those of the standard if the last field can be translated. Otherwise the field is
taken as it is: its numbers count from Sunday as 1, and its weekdays are those of the standard only
if that makes no difference.
-/

namespace FlagAlerts.Schedule

open FlagAlerts.Text FlagAlerts.Schedule.Weekday

/-- A word is one field of an expression, up to its end. -/
def IsField (allowsAny : Bool) (word : String) : Prop :=
  ∃ items, readField allowsAny word.toList = some (items, [])

/-- A text of five words, each of which is one field: for minutes, hours, days of the month, months
and weekdays. -/
structure IsFiveFields (text minutes hours daysOfMonth months weekdays : String) : Prop where
  words : Text.words text = [minutes, hours, daysOfMonth, months, weekdays]
  minutes : IsField false minutes
  hours : IsField false hours
  daysOfMonth : IsField true daysOfMonth
  months : IsField false months
  weekdays : IsTranslated weekdays ∨ IsField true weekdays

/-- Six fields that begin with the second zero. -/
def atSecondZero (minutes hours daysOfMonth months weekdays : String) : String :=
  " ".intercalate ["0", minutes, hours, daysOfMonth, months, weekdays]

section Fields

variable {text m h d mo w : String}

theorem isSolid_of_plain {cs : List Char} (plain : ∀ c ∈ cs, isBlank c = false) : IsSolid cs := by
  intro c hc
  have blank : isSpace c = true → isBlank c = true := by
    unfold isSpace
    simp only [Bool.or_eq_true, beq_iff_eq]
    rintro (((rfl | rfl) | rfl) | rfl) <;> decide
  rw [← Bool.not_eq_true]
  intro space
  rw [plain c hc] at blank
  exact absurd (blank space) (by decide)

theorem IsField.spells {allowsAny : Bool} (field : IsField allowsAny w)
    (plain : ∀ c ∈ w.toList, isBlank c = false) :
    ∃ items, SpellsField allowsAny items w.toList := by
  obtain ⟨items, reading⟩ := field
  obtain ⟨text, whole, spells⟩ := readField_sound (isSolid_of_plain plain) reading
  rw [List.append_nil] at whole
  exact ⟨items, whole ▸ spells⟩

/-- The words of five fields, with any field for the weekdays, are read field by field. -/
theorem IsFiveFields.parse?_expression (fields : IsFiveFields text m h d mo w) :
    ∃ e : Expression, ∀ w' items, SpellsField true items w'.toList →
      Expression.parse? (atSecondZero m h d mo w') = some { e with daysOfWeek := items } := by
  have plain {word : String} (member : word ∈ [m, h, d, mo, w]) :
      ∀ c ∈ word.toList, isBlank c = false :=
    not_isBlank_of_mem_words (fields.words ▸ member)
  obtain ⟨minutes, spellsMinutes⟩ := fields.minutes.spells (plain (by simp))
  obtain ⟨hours, spellsHours⟩ := fields.hours.spells (plain (by simp))
  obtain ⟨days, spellsDays⟩ := fields.daysOfMonth.spells (plain (by simp))
  obtain ⟨months, spellsMonths⟩ := fields.months.spells (plain (by simp))
  refine ⟨⟨Expression.only 0, minutes, hours, days, months, [], Expression.every⟩, ?_⟩
  intro w' items spells
  exact parse?_of_fields rfl spellsMinutes spellsHours spellsDays spellsMonths spells rfl

theorem toList_atSecondZero (m h d mo w : String) :
    (atSecondZero m h d mo w).toList =
      ['0'] ++ ' ' :: (m.toList ++ ' ' :: (h.toList ++ ' ' :: (d.toList ++ ' ' :: (mo.toList ++
        ' ' :: w.toList)))) := by
  simp [atSecondZero]

/-- The six fields begin with a zero and end with the last word, so there are no blanks around
them. -/
theorem trim_atSecondZero (m h d mo : String) (plain : ∀ c ∈ w.toList, isBlank c = false)
    (some : w.toList ≠ []) : trim (atSecondZero m h d mo w) = atSecondZero m h d mo w := by
  obtain ⟨start, last, same⟩ : ∃ start last, w.toList = start ++ [last] := by
    rcases List.eq_nil_or_concat w.toList with none | ⟨start, last, same⟩
    · exact absurd none some
    · exact ⟨start, last, same.trans (List.concat_eq_append)⟩
  unfold trim
  rw [trimChars_of_plain, String.ofList_toList]
  · intro c hc
    rw [toList_atSecondZero] at hc
    cases hc
    decide
  · intro c hc
    have ends : (atSecondZero m h d mo w).toList.getLast? = Option.some last := by
      rw [toList_atSecondZero, same]
      simp only [← List.cons_append, ← List.append_assoc, List.getLast?_concat]
    rw [ends] at hc
    cases hc
    exact plain last (by simp [same])

/-- The words of the six fields are a zero and those of the five. -/
theorem IsFiveFields.words_atSecondZero (fields : IsFiveFields text m h d mo w) {w' : String}
    (plain : ∀ c ∈ w'.toList, isBlank c = false) (some : w'.toList ≠ []) :
    Text.words (atSecondZero m h d mo w') = ["0", m, h, d, mo, w'] := by
  have one {word : String} (member : word ∈ [m, h, d, mo, w]) (rest : List Char) :
      wordsOfChars (word.toList ++ ' ' :: rest) = word.toList :: wordsOfChars rest := by
    rw [← fields.words] at member
    exact wordsOfChars_append (not_isBlank_of_mem_words member) (ne_nil_of_mem_words member)
  have zero : ∀ c ∈ ['0'], isBlank c = false := by
    intro c hc
    obtain rfl := List.mem_singleton.1 hc
    decide
  unfold Text.words
  rw [toList_atSecondZero, wordsOfChars_append zero (by decide), one (by simp), one (by simp),
    one (by simp), one (by simp), wordsOfChars_of_plain plain some]
  simp only [List.map_cons, List.map_nil, String.ofList_toList]

/-- A text of six words that begins with a zero is taken as it is. -/
theorem IsFiveFields.normalize_atSecondZero (fields : IsFiveFields text m h d mo w) {w' : String}
    (plain : ∀ c ∈ w'.toList, isBlank c = false) (some : w'.toList ≠ []) :
    normalize (atSecondZero m h d mo w') = atSecondZero m h d mo w' := by
  unfold normalize
  rw [fields.words_atSecondZero plain some]
  exact trim_atSecondZero m h d mo plain some

/-! ## The weekdays -/

/-- A schedule has the weekdays of its expression, and another expression that differs in these
alone has a schedule that differs in these alone. -/
theorem ofExpression?_daysOfWeek {e : Expression} {items : List Item} {s : Schedule}
    (made : ofExpression? { e with daysOfWeek := items } = some s) :
    numbersOf? .dayOfWeek items = some s.daysOfWeek ∧
      ∀ items', ofExpression? { e with daysOfWeek := items' } =
        (numbersOf? .dayOfWeek items').map fun days => { s with daysOfWeek := days } := by
  simp only [ofExpression?, Option.bind_eq_bind, Option.bind_eq_some_iff, Option.pure_def,
    Option.some.injEq] at made
  obtain ⟨seconds, h1, minutes, h2, hours, h3, days, h4, months, h5, weekdays, h6, years, h7, rfl⟩ :=
    made
  refine ⟨h6, fun items' => ?_⟩
  simp only [ofExpression?, h1, h2, h3, h4, h5, h7, Option.bind_eq_bind, Option.bind_some,
    Option.pure_def]
  cases numbersOf? .dayOfWeek items' <;> rfl

/-- A star stands for every day. -/
theorem standsFor_star (star : w = "*" ∨ w = "?") (sunday : Nat) {n : Nat} (day : n < 7) :
    StandsFor sunday w n := by
  have contained : (⟨0, 6, 1⟩ : Progression).contains n = true := by
    simp [Progression.contains, Nat.le_of_lt_succ day, Nat.mod_one]
  rcases star with rfl | rfl
  · exact ⟨['*'], List.mem_cons_self, _, .whole (.all (.inl rfl)), n, contained,
      Nat.mod_eq_of_lt day⟩
  · exact ⟨['?'], List.mem_cons_self, _, .whole (.all (.inr rfl)), n, contained,
      Nat.mod_eq_of_lt day⟩

/-- How the weekdays of a schedule come from the last of five fields. -/
structure HasWeekdays (s : Schedule) (field : String) : Prop where
  /-- Every item has a standard meaning. -/
  readable : ∀ item ∈ splitOn ',' field.toList, ∃ p, Denotes (dayFrom? 0) item p
  translated : IsTranslated field → ∀ n < 7, n + 1 ∈ s.daysOfWeek ↔ StandsFor 0 field n
  untranslated : ¬ IsTranslated field → ∀ n < 7, n + 1 ∈ s.daysOfWeek ↔ StandsFor 1 field n
  /-- The weekdays are those of the standard if the field can be translated, or if it makes no
  difference where numbers count from. -/
  standard : (∀ n < 7, n + 1 ∈ s.daysOfWeek ↔ StandsFor 0 field n) ↔
    IsTranslated field ∨ ∀ n < 7, StandsFor 0 field n ↔ StandsFor 1 field n

theorem spells_star (star : w = "*" ∨ w = "?") : SpellsField true [⟨.all, none⟩] w.toList := by
  rcases star with rfl | rfl
  · exact .items (.whole .all) .nil
  · exact .items (.whole (.any rfl)) .nil

theorem expand_star (star : w = "*" ∨ w = "?") : expand w = w := by
  unfold expand
  rw [if_pos star]

/-- What a field is expanded to is a field. -/
theorem exists_spells_expand (known : IsTranslated w ∨ ∃ items, SpellsField true items w.toList) :
    ∃ items, SpellsField true items (expand w).toList := by
  by_cases star : w = "*" ∨ w = "?"
  · rw [expand_star star]
    exact ⟨_, spells_star star⟩
  · by_cases can : IsTranslated w
    · obtain ⟨days, spells, -⟩ :=
        expand_of_translated (not_or.1 star) ((or_assoc.2 can).resolve_left star)
      exact ⟨_, spells⟩
    · rw [expand_of_untranslated can]
      exact known.resolve_left can

/-- A field that is taken as it is has the weekdays that it stands for where numbers count from
Sunday as 1. -/
theorem mem_daysOfWeek_of_expand {s : Schedule} {items : List Item}
    (made : ∀ items, SpellsField true items (expand w).toList →
      numbersOf? .dayOfWeek items = some s.daysOfWeek)
    (alone : expand w = w) (spells : SpellsField true items w.toList) :
    (∀ item ∈ splitOn ',' w.toList, ∃ p, Denotes (dayFrom? 0) item p) ∧
      ∀ n < 7, n + 1 ∈ s.daysOfWeek ↔ StandsFor 1 w n := by
  have numbers := made items (by rwa [alone])
  refine ⟨fun item member => ?_, fun n day => mem_of_untranslated spells numbers day⟩
  obtain ⟨-, -, -, -, p, denotes, -⟩ := denotes_of_field (Nat.zero_le 1) spells numbers member
  exact ⟨p, denotes⟩

/-- The weekdays of a schedule are those that its field is expanded to. -/
theorem hasWeekdays_of_expand {s : Schedule}
    (known : IsTranslated w ∨ ∃ items, SpellsField true items w.toList)
    (made : ∀ items, SpellsField true items (expand w).toList →
      numbersOf? .dayOfWeek items = some s.daysOfWeek) : HasWeekdays s w := by
  have standard (readable : ∀ item ∈ splitOn ',' w.toList, ∃ p, Denotes (dayFrom? 0) item p)
      (translated : IsTranslated w → ∀ n < 7, n + 1 ∈ s.daysOfWeek ↔ StandsFor 0 w n)
      (untranslated : ¬ IsTranslated w → ∀ n < 7, n + 1 ∈ s.daysOfWeek ↔ StandsFor 1 w n) :
      HasWeekdays s w := by
    refine ⟨readable, translated, untranslated, fun standard => ?_, ?_⟩
    · by_cases can : IsTranslated w
      · exact .inl can
      · exact .inr fun n day => (standard n day).symm.trans (untranslated can n day)
    · rintro (can | same)
      · exact translated can
      · by_cases can : IsTranslated w
        · exact translated can
        · exact fun n day => (untranslated can n day).trans (same n day).symm
  by_cases star : w = "*" ∨ w = "?"
  · obtain ⟨readable, asIs⟩ :=
      mem_daysOfWeek_of_expand made (expand_star star) (spells_star star)
    refine standard readable (fun _ n day => ?_) fun _ => asIs
    exact (asIs n day).trans (iff_of_true (standsFor_star star 1 day) (standsFor_star star 0 day))
  · by_cases can : IsTranslated w
    · have plain := not_or.1 star
      have items := ((or_assoc.2 can).resolve_left star)
      obtain ⟨days, spells, early, meant⟩ := expand_of_translated plain items
      obtain ⟨ns, numbers, listed⟩ := mem_dayItems early
      rw [made _ spells] at numbers
      cases numbers
      refine standard (fun item member => ?_) (fun _ n day => ?_) (absurd can)
      · obtain ⟨-, p, denotes⟩ := items item member
        exact ⟨p, denotes.standard⟩
      · exact (listed n day).trans (meant n day)
    · obtain ⟨items, spells⟩ := known.resolve_left can
      obtain ⟨readable, asIs⟩ :=
        mem_daysOfWeek_of_expand made (expand_of_untranslated can) spells
      exact standard readable (fun is => absurd is can) fun _ => asIs

/-- The schedule of five fields has the weekdays of its last field: those of the standard if and
only if the field can be translated, or it makes no difference where its numbers count from. In all
else it is the schedule of the same fields behind a zero for the seconds. -/
theorem weekdays_of_five_fields {s : Schedule} (fields : IsFiveFields text m h d mo w)
    (accepted : parse? text = some s) :
    HasWeekdays s w ∧
      ∀ w' items, (∀ c ∈ w'.toList, isBlank c = false) →
        readField true w'.toList = some (items, []) →
        parse? (atSecondZero m h d mo w') =
          (numbersOf? .dayOfWeek items).map fun days => { s with daysOfWeek := days } := by
  obtain ⟨e, reads⟩ := fields.parse?_expression
  have plain : ∀ c ∈ w.toList, isBlank c = false := by
    apply not_isBlank_of_mem_words
    rw [fields.words]
    simp
  have known : IsTranslated w ∨ ∃ items, SpellsField true items w.toList :=
    fields.weekdays.imp_right fun field => field.spells plain
  have normal : normalize text = atSecondZero m h d mo (expand w) := by
    unfold normalize
    rw [fields.words]
    rfl
  obtain ⟨e', reading, made⟩ := Option.bind_eq_some_iff.1 accepted
  rw [normal] at reading
  have weekdays : ∀ items, SpellsField true items (expand w).toList →
      ofExpression? { e with daysOfWeek := items } = some s := by
    intro items spells
    rw [reads _ items spells] at reading
    cases reading
    exact made
  constructor
  · apply hasWeekdays_of_expand known
    intro items spells
    exact (ofExpression?_daysOfWeek (weekdays items spells)).1
  · intro w' items plain' reading'
    obtain ⟨expanded, spells⟩ := exists_spells_expand known
    obtain ⟨text', whole, spells'⟩ := readField_sound (isSolid_of_plain plain') reading'
    rw [List.append_nil] at whole
    obtain ⟨c, tail, start, -⟩ := spells'.start
    have some : w'.toList ≠ [] := by
      rw [whole, start]
      exact List.cons_ne_nil c tail
    unfold parse?
    rw [fields.normalize_atSecondZero plain' some, reads w' items (whole ▸ spells')]
    exact (ofExpression?_daysOfWeek (weekdays expanded spells)).2 items

end Fields

/-- From Monday to Wednesday and from Friday to Sunday. -/
theorem ranges_have_standard_weekdays :
    ∃ s, parse? "0 10 * * Mon-Wed,5-7" = some s ∧ HasWeekdays s "Mon-Wed,5-7" ∧
      s.daysOfWeek = [1, 2, 3, 4, 6, 7] := by
  have fields : IsFiveFields "0 10 * * Mon-Wed,5-7" "0" "10" "*" "*" "Mon-Wed,5-7" :=
    ⟨by decide +kernel, ⟨_, rfl⟩, ⟨_, rfl⟩, ⟨_, rfl⟩, ⟨_, rfl⟩, .inr ⟨_, rfl⟩⟩
  have days : (parse? "0 10 * * Mon-Wed,5-7").map (·.daysOfWeek) = some [1, 2, 3, 4, 6, 7] := by
    decide +kernel
  obtain ⟨s, accepted, same⟩ := Option.map_eq_some_iff.1 days
  exact ⟨s, accepted, (weekdays_of_five_fields fields accepted).1, same⟩

/-- A long name keeps the numbers beside it from being translated: the third day is Wednesday in the
standard, but the schedule has Tuesday in its place. -/
theorem long_name_keeps_numbers_untranslated :
    IsFiveFields "0 10 * * MONDAY,3" "0" "10" "*" "*" "MONDAY,3" ∧
      ∃ s, parse? "0 10 * * MONDAY,3" = some s ∧ s.daysOfWeek = [2, 3] ∧
        StandsFor 0 "MONDAY,3" 3 ∧ ¬ (∀ n < 7, n + 1 ∈ s.daysOfWeek ↔ StandsFor 0 "MONDAY,3" n) := by
  have days : (parse? "0 10 * * MONDAY,3").map (·.daysOfWeek) = some [2, 3] := by decide +kernel
  obtain ⟨s, accepted, same⟩ := Option.map_eq_some_iff.1 days
  have third : StandsFor 0 "MONDAY,3" 3 :=
    ⟨['3'], by decide, ⟨3, 3, 1⟩, .whole (.day (by decide)), 3, by decide, by decide⟩
  refine ⟨⟨by decide +kernel, ⟨_, rfl⟩, ⟨_, rfl⟩, ⟨_, rfl⟩, ⟨_, rfl⟩, .inr ⟨_, rfl⟩⟩, s, accepted, same,
    third, fun standard => ?_⟩
  have wednesday := (standard 3 (by decide)).2 third
  rw [same] at wednesday
  exact absurd wednesday (by decide)

end FlagAlerts.Schedule
