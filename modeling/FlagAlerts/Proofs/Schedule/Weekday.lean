import FlagAlerts.Proofs.Schedule.Reading
import FlagAlerts.Proofs.Text.Decimal
import FlagAlerts.Proofs.Text.Split
import FlagAlerts.Schedule.Weekday

/-!
# What weekdays mean

An item of a field of weekdays means the days of a progression, which depends on how days are
written. The standard counts from Sunday as 0, with 7 for Sunday again; the fields of schedules count
from Sunday as 1. Names mean the same day in both. The items that the translation can read are those
whose days are numbers or short names, and it reads them as the standard means them.
-/

namespace FlagAlerts.Schedule.Weekday

open FlagAlerts.Text

/-! ## Meanings -/

/-- A day, from Sunday as 0, that is written as a number that counts from Sunday as a given one, or
as a short or long name. -/
def dayFrom? (sunday : Nat) (token : List Char) : Option Nat :=
  match readNat? maxUInt32 token with
  | some n => if sunday ≤ n ∧ n ≤ 7 then some (n - sunday) else none
  | none => (TimeUnit.dayOfWeek.ofName? (String.ofList token)).map (· - 1)

/-- The first and the last day of an item without its step. A lone day with a step starts a span up
to Saturday. -/
inductive Spans (day? : List Char → Option Nat) (hasStep : Bool) : List Char → Nat → Nat → Prop where
  | all {c : Char} (mark : c = '*' ∨ c = '?') : Spans day? hasStep [c] 0 6
  | day {token : List Char} {d : Nat} (own : day? token = some d) :
    Spans day? hasStep token d (if hasStep then max d 6 else d)
  | range {a b : List Char} {first last : Nat} (fst : day? a = some first)
    (snd : day? b = some last) (ascends : first ≤ last) :
    Spans day? hasStep (a ++ '-' :: b) first last

/-- The days of an item: those of its span, or every so-manieth of them. -/
inductive Denotes (day? : List Char → Option Nat) : List Char → Progression → Prop where
  | whole {text : List Char} {first last : Nat} (spans : Spans day? false text first last) :
    Denotes day? text ⟨first, last, 1⟩
  | stepped {text run : List Char} {first last step : Nat} (spans : Spans day? true text first last)
    (number : readNat? maxUInt64 run = some step) (positive : 0 < step) :
    Denotes day? (text ++ '/' :: run) ⟨first, last, step⟩

/-- A day, from Sunday as 0, is one of the days that some item of a field means, where numbers count
from Sunday as a given one. -/
def StandsFor (sunday : Nat) (field : String) (day : Nat) : Prop :=
  ∃ item ∈ splitOn ',' field.toList, ∃ p, Denotes (dayFrom? sunday) item p ∧
    ∃ d, p.contains d = true ∧ d % 7 = day

/-- Every item of a field can be translated: it has no question mark, and its days are numbers or
short names. A star or a question mark alone needs no translation. -/
def IsTranslated (field : String) : Prop :=
  field = "*" ∨ field = "?" ∨
    ∀ item ∈ splitOn ',' field.toList, '?' ∉ item ∧ ∃ p, Denotes day? item p

/-! ## One meaning an item -/

/-- The characters that items are made of besides the days. -/
def itemMarks : List Char := ['*', '?', '-', '/', ',']

/-- Days are written without the marks of items. -/
def IsPlain (day? : List Char → Option Nat) : Prop :=
  ∀ {token d}, day? token = some d → ∀ mark ∈ itemMarks, mark ∉ token

section Unique

variable {day? : List Char → Option Nat} {hasStep : Bool} {text : List Char}
  {first last first' last' : Nat}

/-- A span has none of the marks of lists and steps. -/
theorem Spans.unmarked (plain : IsPlain day?) (spans : Spans day? hasStep text first last)
    {mark : Char} (of : mark = '/' ∨ mark = ',') : mark ∉ text := by
  have member : mark ∈ itemMarks := by
    rcases of with rfl | rfl <;> decide
  have hyphen : mark ≠ '-' := by
    rcases of with rfl | rfl <;> decide
  cases spans with
  | all star =>
    rcases of with rfl | rfl <;> rcases star with rfl | rfl <;> decide
  | day own => exact plain own mark member
  | range fst snd =>
    simp only [List.mem_append, List.mem_cons, not_or]
    exact ⟨plain fst mark member, hyphen, plain snd mark member⟩

/-- A star or a question mark is no day. -/
theorem IsPlain.starless (plain : IsPlain day?) {c : Char} (star : c = '*' ∨ c = '?') {d : Nat} :
    day? [c] ≠ some d := by
  intro own
  refine plain own c ?_ List.mem_cons_self
  rcases star with rfl | rfl <;> decide

/-- Two days with a hyphen between them are no day. -/
theorem IsPlain.hyphenless (plain : IsPlain day?) {a b : List Char} {d : Nat} :
    day? (a ++ '-' :: b) ≠ some d := by
  intro own
  exact plain own '-' (by decide) (by simp)

theorem append_hyphen_ne {c : Char} (star : c = '*' ∨ c = '?') (a b : List Char) :
    a ++ '-' :: b ≠ [c] := by
  intro same
  have hyphen : '-' ∈ a ++ '-' :: b := by simp
  rw [same, List.mem_singleton] at hyphen
  subst hyphen
  exact absurd star (by decide)

theorem Spans.unique (plain : IsPlain day?) (spans : Spans day? hasStep text first last)
    (spans' : Spans day? hasStep text first' last') : first = first' ∧ last = last' := by
  cases spans with
  | all star =>
    generalize same : [_] = text' at spans'
    cases spans' with
    | all => exact ⟨rfl, rfl⟩
    | day own =>
      rw [← same] at own
      exact absurd own (plain.starless star)
    | @range a b => exact absurd same.symm (append_hyphen_ne star a b)
  | day own =>
    cases spans' with
    | all star => exact absurd own (plain.starless star)
    | day own' =>
      rw [own] at own'
      cases own'
      exact ⟨rfl, rfl⟩
    | range => exact absurd own plain.hyphenless
  | @range a b _ _ fst snd ascends =>
    generalize same : a ++ '-' :: b = text' at spans'
    cases spans' with
    | all star => exact absurd same (append_hyphen_ne star a b)
    | day own =>
      rw [← same] at own
      exact absurd own plain.hyphenless
    | @range a' b' _ _ fst' snd' =>
      have parts := cut?_append (b := b) (plain fst '-' (by decide))
      rw [same, cut?_append (plain fst' '-' (by decide))] at parts
      cases parts
      rw [fst] at fst'
      rw [snd] at snd'
      cases fst'
      cases snd'
      exact ⟨rfl, rfl⟩

/-- An item has at most one meaning. -/
theorem Denotes.unique (plain : IsPlain day?) {p q : Progression} (denotes : Denotes day? text p)
    (denotes' : Denotes day? text q) : p = q := by
  cases denotes with
  | whole spans =>
    have slashless := spans.unmarked plain (.inl rfl)
    cases denotes' with
    | whole spans' =>
      obtain ⟨rfl, rfl⟩ := spans.unique plain spans'
      rfl
    | stepped => simp at slashless
  | @stepped text run first last step spans number =>
    have slashless := spans.unmarked plain (.inl rfl)
    generalize same : text ++ '/' :: run = text' at denotes'
    cases denotes' with
    | whole spans' =>
      have slashless' := spans'.unmarked plain (.inl rfl)
      simp [← same] at slashless'
    | stepped spans' number' =>
      have parts := cut?_append (b := run) slashless
      rw [same, cut?_append (spans'.unmarked plain (.inl rfl))] at parts
      cases parts
      obtain ⟨rfl, rfl⟩ := spans.unique plain spans'
      rw [number] at number'
      cases number'
      rfl

theorem Spans.ascends (spans : Spans day? hasStep text first last) : first ≤ last := by
  cases spans with
  | all => omega
  | day => split <;> omega
  | range _ _ ascends => exact ascends

theorem Denotes.ascends {p : Progression} (denotes : Denotes day? text p) : p.first ≤ p.last := by
  cases denotes with
  | whole spans => exact spans.ascends
  | stepped spans => exact spans.ascends

end Unique

/-! ## How days are written -/

section Tokens

variable {token run : List Char} {limit n d : Nat}

/-- A number is written with digits, maybe behind a plus sign. -/
theorem digits_of_readNat? (h : readNat? limit token = some n) :
    ∀ c ∈ token, c = '+' ∨ c.isDigit = true := by
  have digits {body : List Char} (read : (readDigits? body).filter (· ≤ limit) = some n) :
      ∀ c ∈ body, c.isDigit = true := by
    have whole := (Option.filter_eq_some_iff.1 read).1
    unfold readDigits? at whole
    split at whole
    next all => exact List.all_eq_true.1 (Bool.and_eq_true_iff.1 all).2
    next => cases whole
  unfold readNat? at h
  intro c hc
  split at h
  next rest =>
    rcases List.mem_cons.1 hc with plus | later
    · exact .inl plus
    · exact .inr (digits h c later)
  next => exact .inr (digits h c hc)

theorem readNat?_of_numeral (numeral : IsNumeral run n) (small : n ≤ limit) :
    readNat? limit run = some n := by
  have all : run.all Char.isDigit = true := List.all_eq_true.2 numeral.digits
  have unsigned : ∀ tail, run ≠ '+' :: tail := by
    rintro tail rfl
    exact absurd (numeral.digits '+' List.mem_cons_self) (by decide)
  unfold readNat?
  split
  next rest => exact absurd rfl (unsigned rest)
  next => simp [readDigits?, numeral.nonempty, all, numeral.value, small]

theorem readNat?_of_name {s : String} (letters : IsName run s) : readNat? limit run = none := by
  cases reading : readNat? limit run with
  | none => rfl
  | some n =>
    obtain ⟨c, tail, rfl⟩ := List.exists_cons_of_ne_nil letters.nonempty
    have letter := letters.letters c List.mem_cons_self
    rcases digits_of_readNat? reading c List.mem_cons_self with rfl | digit
    · exact absurd letter (by decide)
    · rw [not_isDigit_of_isAlpha letter] at digit
      cases digit

/-- The characters that numbers and names are written with are no marks. -/
theorem unmarked_of_readNat? (h : readNat? limit token = some n) :
    ∀ mark ∈ itemMarks, mark ∉ token := by
  intro mark member inside
  have plain : ∀ mark ∈ itemMarks, mark ≠ '+' ∧ mark.isDigit = false := by
    simp [itemMarks]
  rcases digits_of_readNat? h mark inside with plus | digit
  · exact (plain mark member).1 plus
  · rw [(plain mark member).2] at digit
    cases digit

/-- A text in small letters has the small letters of its characters. -/
theorem toList_toLower (s : String) : s.toLower.toList = s.toList.map Char.toLower :=
  String.toList_map

/-- The names of days are made of small letters. -/
theorem unmarked_of_ofName? (h : TimeUnit.dayOfWeek.ofName? (String.ofList token) = some d) :
    ∀ mark ∈ itemMarks, mark ∉ token := by
  obtain ⟨i, found, -⟩ := Option.map_eq_some_iff.1 h
  obtain ⟨inside, named, -⟩ := List.findIdx?_eq_some_iff_getElem.1 found
  have listed := List.contains_iff_mem.1 named
  have small : ∀ names ∈ TimeUnit.dayOfWeek.names, ∀ name ∈ names, ∀ mark ∈ itemMarks,
      mark ∉ name.toList := by
    simp [itemMarks, TimeUnit.names]
  have fixed : ∀ mark ∈ itemMarks, mark.toLower = mark := by simp [itemMarks]
  intro mark member occurs
  refine small _ (List.getElem_mem inside) _ listed mark member ?_
  rw [toList_toLower, String.toList_ofList, ← fixed mark member]
  exact List.mem_map_of_mem occurs

theorem dayFrom?_plain (sunday : Nat) : IsPlain (dayFrom? sunday) := by
  intro token d own
  unfold dayFrom? at own
  split at own
  next n number => exact unmarked_of_readNat? number
  next =>
    obtain ⟨k, named, -⟩ := Option.map_eq_some_iff.1 own
    exact unmarked_of_ofName? named

/-- A short name is a name of the day. -/
theorem ofName?_of_short {cs : List Char}
    (h : names.findIdx? (fun name => name.toList == cs.map Char.toUpper) = some d) :
    TimeUnit.dayOfWeek.ofName? (String.ofList cs) = some (d + 1) := by
  obtain ⟨inside, named, -⟩ := List.findIdx?_eq_some_iff_getElem.1 h
  have casing (c : Char) : c.toUpper.toLower = c.toLower := by
    apply Char.ext
    unfold Char.toUpper Char.toLower
    grind
  have same : (String.ofList cs).toLower = names[d].toLower := by
    apply String.toList_injective
    rw [toList_toLower, toList_toLower, beq_iff_eq.1 named, String.toList_ofList, List.map_map]
    exact List.map_congr_left fun c _ => (casing c).symm
  have all : ∀ i (hi : i < names.length), TimeUnit.dayOfWeek.ofName? names[i] = some (i + 1) := by
    decide +kernel
  rw [← all d inside]
  unfold TimeUnit.ofName?
  rw [same]

/-- What the translation reads as a day is that day in the standard. -/
theorem dayFrom?_of_day? (own : day? token = some d) : dayFrom? 0 token = some d := by
  unfold day? at own
  unfold dayFrom?
  cases number : readNat? maxUInt32 token with
  | some n =>
    rw [number] at own
    simpa using own
  | none =>
    rw [number] at own
    simp [ofName?_of_short own]

theorem day?_plain : IsPlain day? := fun own => dayFrom?_plain 0 (dayFrom?_of_day? own)

end Tokens

/-! ## The translation -/

section Translation

variable {text item : List Char} {hasStep : Bool} {first last n : Nat}

/-- What the translation reads as a span is one, without a question mark. -/
theorem spans_of_range? (reading : range? hasStep text = some (first, last))
    (ascends : first ≤ last) : '?' ∉ text ∧ Spans day? hasStep text first last := by
  unfold range? at reading
  split at reading
  next star =>
    cases reading
    rw [star]
    exact ⟨by decide, .all (.inl rfl)⟩
  next =>
    split at reading
    next a b parts =>
      obtain rfl := eq_of_cut? parts
      obtain ⟨f, fst, rest⟩ := Option.bind_eq_some_iff.1 reading
      obtain ⟨l, snd, same⟩ := Option.bind_eq_some_iff.1 rest
      cases same
      refine ⟨?_, .range fst snd ascends⟩
      simp only [List.mem_append, List.mem_cons, not_or]
      exact ⟨day?_plain fst '?' (by decide), by decide, day?_plain snd '?' (by decide)⟩
    next whole =>
      obtain ⟨d, own, same⟩ := Option.bind_eq_some_iff.1 reading
      have unasked := day?_plain own '?' (by decide)
      cases same
      cases hasStep with
      | true =>
        have spans : Spans day? true text first (if true then max first 6 else first) := .day own
        refine ⟨unasked, ?_⟩
        simpa using spans
      | false => exact ⟨unasked, .day own⟩

/-- The translation reads every span that has no question mark. -/
theorem range?_of_spans (unasked : '?' ∉ text) (spans : Spans day? hasStep text first last) :
    range? hasStep text = some (first, last) := by
  unfold range?
  cases spans with
  | all mark =>
    rcases mark with rfl | rfl
    · rfl
    · exact absurd List.mem_cons_self unasked
  | day own =>
    have starless : text ≠ ['*'] := by
      rintro rfl
      exact day?_plain.starless (.inl rfl) own
    rw [if_neg starless, cut?_of_not_mem (day?_plain own '-' (by decide))]
    simp only [own]
    cases hasStep <;> rfl
  | @range a b _ _ fst snd ascends =>
    rw [if_neg (append_hyphen_ne (.inl rfl) a b), cut?_append (day?_plain fst '-' (by decide))]
    simp only [fst, snd]
    rfl

/-- The days of a progression, where 7 is Sunday. -/
def daysOf (p : Progression) : List Nat :=
  ((List.range' p.first (p.last + 1 - p.first)).filter fun d => (d - p.first) % p.step == 0).map
    (· % 7)

theorem mem_daysOf {p : Progression} : n ∈ daysOf p ↔ ∃ d, p.contains d = true ∧ d % 7 = n := by
  unfold daysOf Progression.contains
  simp only [List.mem_map, List.mem_filter, List.mem_range'_1, Bool.and_eq_true, decide_eq_true_eq]
  constructor
  · rintro ⟨d, ⟨⟨low, high⟩, step⟩, same⟩
    exact ⟨d, ⟨⟨low, by omega⟩, step⟩, same⟩
  · rintro ⟨d, ⟨⟨low, high⟩, step⟩, same⟩
    exact ⟨d, ⟨⟨low, by omega⟩, step⟩, same⟩

/-- What the translation makes of a span and its step. -/
def expandSpan? (hasStep : Bool) (text : List Char) (step : Nat) : Option (List Nat) := do
  let (first, last) ← range? hasStep text
  if first > last then none else some (daysOf ⟨first, last, step⟩)

theorem days?_eq (item : List Char) :
    days? item =
      match cut? '/' item with
      | some (text, run) => do
        let step ← readNat? maxUInt64 run
        if step = 0 then none else expandSpan? (item.contains '/') text step
      | none => expandSpan? (item.contains '/') item 1 := by
  unfold days?
  cases cut? '/' item with
  | none => rfl
  | some parts =>
    obtain ⟨text, run⟩ := parts
    rfl

theorem expandSpan?_eq_some {step : Nat} {ds : List Nat} :
    expandSpan? hasStep text step = some ds ↔
      '?' ∉ text ∧ ∃ first last, Spans day? hasStep text first last ∧
        ds = daysOf ⟨first, last, step⟩ := by
  unfold expandSpan?
  constructor
  · intro reading
    obtain ⟨⟨first, last⟩, span, days⟩ := Option.bind_eq_some_iff.1 reading
    dsimp only at days
    split at days
    next => cases days
    next ascends =>
      cases days
      obtain ⟨unasked, spans⟩ := spans_of_range? span (Nat.not_lt.1 ascends)
      exact ⟨unasked, first, last, spans, rfl⟩
  · rintro ⟨unasked, first, last, spans, rfl⟩
    rw [range?_of_spans unasked spans]
    exact if_neg (Nat.not_lt.2 spans.ascends)

/-- The translation reads the items without a question mark whose days are numbers or short names,
as the days that they mean. -/
theorem days?_eq_some {ds : List Nat} :
    days? item = some ds ↔ '?' ∉ item ∧ ∃ p, Denotes day? item p ∧ ds = daysOf p := by
  rw [days?_eq]
  constructor
  · intro reading
    split at reading
    next text run parts =>
      obtain rfl := eq_of_cut? parts
      obtain ⟨step, number, reading⟩ := Option.bind_eq_some_iff.1 reading
      have stepped : (text ++ '/' :: run).contains '/' = true := by simp
      rw [stepped] at reading
      split at reading
      next => cases reading
      next positive =>
        obtain ⟨unasked, first, last, spans, same⟩ := expandSpan?_eq_some.1 reading
        refine ⟨?_, _, .stepped spans number (Nat.pos_of_ne_zero positive), same⟩
        simp only [List.mem_append, List.mem_cons, not_or]
        exact ⟨unasked, by decide, unmarked_of_readNat? number '?' (by decide)⟩
    next whole =>
      have unstepped : item.contains '/' = false := by
        simpa using not_mem_of_cut? whole
      rw [unstepped] at reading
      obtain ⟨unasked, first, last, spans, same⟩ := expandSpan?_eq_some.1 reading
      exact ⟨unasked, _, .whole spans, same⟩
  · rintro ⟨unasked, p, denotes, rfl⟩
    cases denotes with
    | whole spans =>
      have slashless := spans.unmarked day?_plain (.inl rfl)
      rw [cut?_of_not_mem slashless]
      have unstepped : item.contains '/' = false := by simpa using slashless
      rw [unstepped]
      exact expandSpan?_eq_some.2 ⟨unasked, _, _, spans, rfl⟩
    | @stepped text run first last step spans number positive =>
      have stepped : (text ++ '/' :: run).contains '/' = true := by simp
      rw [cut?_append (spans.unmarked day?_plain (.inl rfl)), stepped]
      simp only [number, Option.bind_eq_bind, Option.bind_some, if_neg (Nat.pos_iff_ne_zero.1 positive)]
      refine expandSpan?_eq_some.2 ⟨fun asked => unasked ?_, _, _, spans, rfl⟩
      exact List.mem_append_left _ asked

/-- What the translation means by an item is its standard meaning. -/
theorem Denotes.standard {p : Progression} (denotes : Denotes day? item p) :
    Denotes (dayFrom? 0) item p := by
  have standard {hasStep : Bool} {text : List Char} {first last : Nat}
      (spans : Spans day? hasStep text first last) :
      Spans (dayFrom? 0) hasStep text first last := by
    cases spans with
    | all mark => exact .all mark
    | day own => exact .day (dayFrom?_of_day? own)
    | range fst snd ascends =>
      exact .range (dayFrom?_of_day? fst) (dayFrom?_of_day? snd) ascends
  cases denotes with
  | whole spans => exact .whole (standard spans)
  | stepped spans number positive => exact .stepped (standard spans) number positive

end Translation

end FlagAlerts.Schedule.Weekday
