import FlagAlerts.Proofs.Text.Split
import FlagAlerts.Schedule.Expression
import Mathlib.Data.List.Forall2
import Mathlib.Data.List.DropRight
import Mathlib.Data.List.TakeWhile

/-!
# How fields are spelled

A field is items with commas between them, an item is a span that may have a step, and a span is a
star, a number, a name, or two of these with a hyphen between them. A field without blanks that is
read to its end is spelled in this way, and whatever is spelled in this way is read, also where
another field follows behind a blank.
-/

namespace FlagAlerts.Schedule

open FlagAlerts.Text

/-! ## The grammar -/

/-- A run of digits that is the numeral of a number. -/
structure IsNumeral (run : List Char) (n : Nat) : Prop where
  nonempty : run ≠ []
  digits : ∀ c ∈ run, c.isDigit = true
  value : ofDigits run = n
  small : n ≤ maxUInt32

/-- A run of letters that is a name. -/
structure IsName (run : List Char) (name : String) : Prop where
  nonempty : run ≠ []
  letters : ∀ c ∈ run, c.isAlpha = true
  value : String.ofList run = name

/-- The text of a span. -/
inductive SpellsSpan (allowsAny : Bool) : Span → List Char → Prop where
  | all : SpellsSpan allowsAny .all ['*']
  | any (allowed : allowsAny = true) : SpellsSpan allowsAny .all ['?']
  | point {run : List Char} {n : Nat} (numeral : IsNumeral run n) :
    SpellsSpan allowsAny (.point n) run
  | range {a b : List Char} {first last : Nat} (fst : IsNumeral a first) (snd : IsNumeral b last) :
    SpellsSpan allowsAny (.range first last) (a ++ '-' :: b)
  | name {run : List Char} {s : String} (letters : IsName run s) :
    SpellsSpan allowsAny (.name s) run
  | nameRange {a b : List Char} {first last : String} (fst : IsName a first)
    (snd : IsName b last) : SpellsSpan allowsAny (.nameRange first last) (a ++ '-' :: b)

/-- The text of an item. -/
inductive SpellsItem (allowsAny : Bool) : Item → List Char → Prop where
  | whole {span : Span} {text : List Char} (spells : SpellsSpan allowsAny span text) :
    SpellsItem allowsAny ⟨span, none⟩ text
  | stepped {span : Span} {text run : List Char} {step : Nat}
    (spells : SpellsSpan allowsAny span text) (unnamed : ∀ s, span ≠ .name s)
    (numeral : IsNumeral run step) :
    SpellsItem allowsAny ⟨span, some step⟩ (text ++ '/' :: run)

/-- The text of the items after the first. -/
inductive SpellsMore (allowsAny : Bool) : List Item → List Char → Prop where
  | nil : SpellsMore allowsAny [] []
  | cons {item : Item} {items : List Item} {text more : List Char}
    (first : SpellsItem allowsAny item text) (rest : SpellsMore allowsAny items more) :
    SpellsMore allowsAny (item :: items) (',' :: (text ++ more))

/-- The text of a field. -/
inductive SpellsField (allowsAny : Bool) : List Item → List Char → Prop where
  | items {item : Item} {items : List Item} {text more : List Char}
    (first : SpellsItem allowsAny item text) (rest : SpellsMore allowsAny items more) :
    SpellsField allowsAny (item :: items) (text ++ more)

section Pieces

variable {allowsAny : Bool} {text : List Char}

theorem SpellsSpan.commaless {span : Span} (spells : SpellsSpan allowsAny span text) :
    ',' ∉ text := by
  have digit {run : List Char} {n : Nat} (numeral : IsNumeral run n) : ',' ∉ run :=
    fun comma => absurd (numeral.digits ',' comma) (by decide)
  have letter {run : List Char} {s : String} (letters : IsName run s) : ',' ∉ run :=
    fun comma => absurd (letters.letters ',' comma) (by decide)
  cases spells with
  | all | any => decide
  | point numeral => exact digit numeral
  | name letters => exact letter letters
  | range fst snd =>
    rw [List.mem_append, List.mem_cons, not_or, not_or]
    exact ⟨digit fst, by decide, digit snd⟩
  | nameRange fst snd =>
    rw [List.mem_append, List.mem_cons, not_or, not_or]
    exact ⟨letter fst, by decide, letter snd⟩

theorem SpellsItem.commaless {item : Item} (spells : SpellsItem allowsAny item text) :
    ',' ∉ text := by
  cases spells with
  | whole span => exact span.commaless
  | stepped span unnamed numeral =>
    rw [List.mem_append, List.mem_cons, not_or, not_or]
    refine ⟨span.commaless, by decide, fun comma => ?_⟩
    exact absurd (numeral.digits ',' comma) (by decide)

theorem SpellsMore.pieces {items : List Item} {more : List Char}
    (spells : SpellsMore allowsAny items more) :
    ∃ pieces, List.Forall₂ (SpellsItem allowsAny) items pieces ∧
      ∀ text, ',' ∉ text → splitOn ',' (text ++ more) = text :: pieces := by
  induction spells with
  | nil =>
    refine ⟨[], .nil, fun text commaless => ?_⟩
    rw [List.append_nil, splitOn_of_not_mem commaless]
  | @cons item items text more first rest ih =>
    obtain ⟨pieces, each, split⟩ := ih
    refine ⟨text :: pieces, .cons first each, fun before commaless => ?_⟩
    rw [splitOn_append commaless, split text first.commaless]

/-- The items of a field are the pieces between its commas. -/
theorem SpellsField.pieces {items : List Item} (spells : SpellsField allowsAny items text) :
    List.Forall₂ (SpellsItem allowsAny) items (splitOn ',' text) := by
  cases spells with
  | items first rest =>
    obtain ⟨pieces, each, split⟩ := rest.pieces
    rw [split _ first.commaless]
    exact .cons first each

end Pieces

/-! ## Blanks -/

section Blanks

variable {c : Char} {cs rest : List Char}

/-- A text without blanks. -/
def IsSolid (cs : List Char) : Prop := ∀ c ∈ cs, isSpace c = false

theorem IsSolid.right {text : List Char} (solid : IsSolid (text ++ rest)) : IsSolid rest :=
  fun c hc => solid c (List.mem_append_right text hc)

theorem skipSpace_cons (plain : isSpace c = false) : skipSpace (c :: rest) = c :: rest := by
  rw [skipSpace, List.dropWhile_cons, plain]
  rfl

theorem IsSolid.skipSpace (solid : IsSolid cs) : skipSpace cs = cs := by
  cases cs with
  | nil => rfl
  | cons c rest => exact skipSpace_cons (solid c List.mem_cons_self)

theorem skipSpace_skipSpace (cs : List Char) : skipSpace (skipSpace cs) = skipSpace cs :=
  List.dropWhile_idempotent isSpace cs

theorem not_isSpace_of_isDigit (digit : c.isDigit = true) : isSpace c = false := by
  unfold isSpace
  simp only [Bool.or_eq_false_iff, beq_eq_false_iff_ne]
  refine ⟨⟨⟨?_, ?_⟩, ?_⟩, ?_⟩ <;> rintro rfl <;> exact absurd digit (by decide)

theorem not_isSpace_of_isAlpha (letter : c.isAlpha = true) : isSpace c = false := by
  unfold isSpace
  simp only [Bool.or_eq_false_iff, beq_eq_false_iff_ne]
  refine ⟨⟨⟨?_, ?_⟩, ?_⟩, ?_⟩ <;> rintro rfl <;> exact absurd letter (by decide)

end Blanks

/-! ## What is read is spelled -/

theorem readChar_eq_some {c : Char} {cs rest : List Char} :
    readChar c cs = some ((), rest) ↔ cs = c :: rest := by
  cases cs with
  | nil => simp [readChar]
  | cons d tail =>
    rw [readChar]
    split
    next same => simp [same]
    next other => simp [other]

section Sound

variable {allowsAny : Bool} {cs run rest : List Char}

/-- A run that is read is the start of the text. -/
theorem readRun_sound {p : Char → Bool} (solid : IsSolid cs)
    (h : readRun p cs = some (run, rest)) :
    cs = run ++ rest ∧ run ≠ [] ∧ ∀ c ∈ run, p c = true := by
  unfold readRun at h
  simp only [solid.skipSpace] at h
  split at h
  next => cases h
  next some =>
    cases h
    have whole := List.takeWhile_append_dropWhile (p := p) (l := cs)
    have behind : IsSolid (cs.dropWhile p) :=
      fun c hc => solid c ((List.dropWhile_sublist p).subset hc)
    refine ⟨?_, some, fun c hc => List.mem_takeWhile_imp hc⟩
    rw [behind.skipSpace, whole]

theorem readNumber_sound {n : Nat} (solid : IsSolid cs) (h : readNumber cs = some (n, rest)) :
    ∃ run, cs = run ++ rest ∧ IsNumeral run n := by
  obtain ⟨⟨run, behind⟩, reading, limited⟩ := Option.bind_eq_some_iff.1 h
  obtain ⟨whole, nonempty, digits⟩ := readRun_sound solid reading
  dsimp only at limited
  split at limited
  next small =>
    cases limited
    exact ⟨run, whole, nonempty, digits, rfl, small⟩
  next => cases limited

theorem readName_sound {s : String} (solid : IsSolid cs) (h : readName cs = some (s, rest)) :
    ∃ run, cs = run ++ rest ∧ IsName run s := by
  obtain ⟨⟨run, behind⟩, reading, same⟩ := Option.bind_eq_some_iff.1 h
  obtain ⟨whole, nonempty, letters⟩ := readRun_sound solid reading
  cases same
  exact ⟨run, whole, nonempty, letters, rfl⟩

/-- Two things that are read with a hyphen between them are spelled so. -/
theorem readPair_sound {α : Type} {read : Reader α} {Spells : List Char → α → Prop} {a b : α}
    (sound : ∀ {cs a rest}, IsSolid cs → read cs = some (a, rest) →
      ∃ text, cs = text ++ rest ∧ Spells text a)
    (solid : IsSolid cs) (h : readPair read cs = some ((a, b), rest)) :
    ∃ first second, cs = first ++ '-' :: second ++ rest ∧ Spells first a ∧ Spells second b := by
  obtain ⟨⟨x, behind⟩, readFirst, next⟩ := Option.bind_eq_some_iff.1 h
  obtain ⟨⟨⟨⟩, behind'⟩, hyphen, last⟩ := Option.bind_eq_some_iff.1 next
  obtain ⟨⟨y, behind''⟩, readSecond, done⟩ := Option.bind_eq_some_iff.1 last
  cases done
  obtain ⟨first, rfl, spellsFirst⟩ := sound solid readFirst
  obtain rfl := readChar_eq_some.1 hyphen
  obtain ⟨second, rfl, spellsSecond⟩ :=
    sound (fun c hc => solid.right c (List.mem_cons_of_mem _ hc)) readSecond
  refine ⟨first, second, ?_, spellsFirst, spellsSecond⟩
  rw [List.append_assoc, List.cons_append]

theorem readSpan_sound {span : Span} (solid : IsSolid cs)
    (h : readSpan allowsAny cs = some (span, rest)) :
    ∃ text, cs = text ++ rest ∧ SpellsSpan allowsAny span text := by
  unfold readSpan at h
  split at h
  next =>
    cases h
    exact ⟨['*'], rfl, .all⟩
  next =>
    split at h
    next =>
      cases h
      exact ⟨['?'], rfl, .any rfl⟩
    next =>
      simp only [Option.orElse_eq_orElse, Option.orElse_eq_or, Option.or_eq_some_iff,
        Option.map_eq_some_iff] at h
      rcases h with ⟨⟨⟨a, b⟩, behind⟩, reading, same⟩ | ⟨-, ⟨⟨n, behind⟩, reading, same⟩ |
        ⟨-, ⟨⟨⟨a, b⟩, behind⟩, reading, same⟩ | ⟨-, ⟨n, behind⟩, reading, same⟩⟩⟩
      · cases same
        obtain ⟨first, second, whole, fst, snd⟩ := readPair_sound readNumber_sound solid reading
        exact ⟨_, whole, .range fst snd⟩
      · cases same
        obtain ⟨run, whole, numeral⟩ := readNumber_sound solid reading
        exact ⟨run, whole, .point numeral⟩
      · cases same
        obtain ⟨first, second, whole, fst, snd⟩ := readPair_sound readName_sound solid reading
        exact ⟨_, whole, .nameRange fst snd⟩
      · cases same
        obtain ⟨run, whole, letters⟩ := readName_sound solid reading
        exact ⟨run, whole, .name letters⟩

theorem readStep_sound {step : Nat} (solid : IsSolid cs) (h : readStep cs = some (step, rest)) :
    ∃ run, cs = '/' :: run ++ rest ∧ IsNumeral run step := by
  obtain ⟨⟨⟨⟩, behind⟩, slash, reading⟩ := Option.bind_eq_some_iff.1 h
  obtain rfl := readChar_eq_some.1 slash
  obtain ⟨run, rfl, numeral⟩ :=
    readNumber_sound (fun c hc => solid c (List.mem_cons_of_mem _ hc)) reading
  exact ⟨run, rfl, numeral⟩

theorem readItem_sound {item : Item} (solid : IsSolid cs)
    (h : readItem allowsAny cs = some (item, rest)) :
    ∃ text, cs = text ++ rest ∧ SpellsItem allowsAny item text := by
  obtain ⟨⟨span, behind⟩, reading, ends⟩ := Option.bind_eq_some_iff.1 h
  obtain ⟨text, rfl, spells⟩ := readSpan_sound solid reading
  dsimp only at ends
  split at ends
  next =>
    cases ends
    exact ⟨text, rfl, .whole spells⟩
  next =>
    cases ends
    exact ⟨text, rfl, .whole spells⟩
  next step behind' unnamed stepped =>
    cases ends
    obtain ⟨run, rfl, numeral⟩ := readStep_sound solid.right stepped
    refine ⟨text ++ '/' :: run, ?_, .stepped spells unnamed numeral⟩
    rw [List.append_assoc]

theorem readMoreItems_sound {fuel : Nat} {items : List Item} (solid : IsSolid cs)
    (h : readMoreItems allowsAny fuel cs = (items, rest)) :
    ∃ more, cs = more ++ rest ∧ SpellsMore allowsAny items more := by
  induction fuel generalizing cs items with
  | zero =>
    cases h
    exact ⟨[], rfl, .nil⟩
  | succ fuel ih =>
    rw [readMoreItems] at h
    split at h
    next =>
      cases h
      exact ⟨[], rfl, .nil⟩
    next behind comma =>
      obtain rfl := readChar_eq_some.1 comma
      have solid' : IsSolid behind := fun c hc => solid c (List.mem_cons_of_mem _ hc)
      split at h
      next =>
        cases h
        exact ⟨[], rfl, .nil⟩
      next item behind' reading =>
        obtain ⟨text, rfl, first⟩ := readItem_sound solid' reading
        generalize rest' : readMoreItems allowsAny fuel behind' = more at h
        obtain ⟨others, end'⟩ := more
        cases h
        obtain ⟨more, rfl, spells⟩ := ih solid'.right rest'
        refine ⟨',' :: (text ++ more), ?_, .cons first spells⟩
        rw [List.cons_append, List.append_assoc]

/-- A field that is read from a text without blanks is spelled there. -/
theorem readField_sound {items : List Item} (solid : IsSolid cs)
    (h : readField allowsAny cs = some (items, rest)) :
    ∃ text, cs = text ++ rest ∧ SpellsField allowsAny items text := by
  obtain ⟨⟨item, behind⟩, reading, ends⟩ := Option.bind_eq_some_iff.1 h
  rw [solid.skipSpace] at reading
  obtain ⟨text, rfl, first⟩ := readItem_sound solid reading
  generalize others : readMoreItems allowsAny behind.length behind = read at ends
  obtain ⟨items', behind'⟩ := read
  obtain ⟨more, whole, rest'⟩ := readMoreItems_sound solid.right others
  dsimp only at ends
  rw [others] at ends
  cases ends
  rw [whole] at solid
  refine ⟨text ++ more, ?_, .items first rest'⟩
  rw [solid.right.right.skipSpace, List.append_assoc, whole]

end Sound

/-! ## What is spelled is read -/

/-- What follows a number or a name neither goes on with it nor is, behind blanks, one of some
marks. -/
structure Follows (marks rest : List Char) : Prop where
  apart : ∀ c ∈ rest.head?, c.isDigit = false ∧ c.isAlpha = false
  unmarked : ∀ c ∈ (skipSpace rest).head?, c ∉ marks

section Complete

variable {allowsAny : Bool} {marks run rest : List Char}

theorem Follows.weaken {fewer : List Char} (follows : Follows marks rest) (h : fewer ⊆ marks) :
    Follows fewer rest :=
  ⟨follows.apart, fun c hc member => follows.unmarked c hc (h member)⟩

theorem follows_nil : Follows marks [] := by
  constructor <;> intro c hc <;> cases hc

/-- A mark is not read where it does not follow, whether or not blanks are skipped. -/
theorem Follows.readChar {c : Char} (follows : Follows marks rest) (mark : c ∈ marks)
    (solid : isSpace c = false) {behind : List Char}
    (reached : behind = rest ∨ behind = skipSpace rest) : readChar c behind = none := by
  have other : ∀ tail, behind ≠ c :: tail := by
    rintro tail rfl
    rcases reached with same | same
    · refine follows.unmarked c ?_ mark
      rw [← same, skipSpace_cons solid]
      rfl
    · refine follows.unmarked c ?_ mark
      rw [← same]
      rfl
  cases reading : FlagAlerts.Schedule.readChar c behind with
  | none => rfl
  | some result => exact absurd (readChar_eq_some.1 reading) (other result.2)

/-- A run is read up to its end. -/
theorem readRun_append {p : Char → Bool} (nonempty : run ≠ []) (all : ∀ c ∈ run, p c = true)
    (solid : IsSolid run) (apart : ∀ c ∈ rest.head?, p c = false) :
    readRun p (run ++ rest) = some (run, skipSpace rest) := by
  have start : skipSpace (run ++ rest) = run ++ rest := by
    cases run with
    | nil => exact absurd rfl nonempty
    | cons c tail => exact skipSpace_cons (solid c List.mem_cons_self)
  have behind : rest.takeWhile p = [] ∧ rest.dropWhile p = rest := by
    cases rest with
    | nil => exact ⟨rfl, rfl⟩
    | cons c tail => simp [apart c rfl]
  unfold readRun
  simp only [start, List.takeWhile_append_of_pos all, List.dropWhile_append_of_pos all, behind,
    List.append_nil]

theorem readNumber_append {n : Nat} (numeral : IsNumeral run n) (follows : Follows marks rest) :
    readNumber (run ++ rest) = some (n, skipSpace rest) := by
  have solid : IsSolid run := fun c hc => not_isSpace_of_isDigit (numeral.digits c hc)
  unfold readNumber
  rw [readRun_append numeral.nonempty numeral.digits solid fun c hc => (follows.apart c hc).1]
  simp [numeral.value, numeral.small]

theorem readName_append {s : String} (letters : IsName run s) (follows : Follows marks rest) :
    readName (run ++ rest) = some (s, skipSpace rest) := by
  have solid : IsSolid run := fun c hc => not_isSpace_of_isAlpha (letters.letters c hc)
  unfold readName
  rw [readRun_append letters.nonempty letters.letters solid fun c hc => (follows.apart c hc).2]
  simp [letters.value]

theorem not_isDigit_of_isAlpha {c : Char} (letter : c.isAlpha = true) : c.isDigit = false := by
  delta Char.isAlpha Char.isUpper Char.isLower at letter
  simp only [Char.isDigit, Bool.or_eq_true, decide_eq_true_eq, Bool.and_eq_false_iff,
    decide_eq_false_iff_not] at letter ⊢
  grind

/-- A name is no number. -/
theorem readNumber_of_isName {s : String} (letters : IsName run s) :
    readNumber (run ++ rest) = none := by
  cases run with
  | nil => exact absurd rfl letters.nonempty
  | cons c tail =>
    have letter := letters.letters c List.mem_cons_self
    have nothing : readRun Char.isDigit (c :: tail ++ rest) = none := by
      unfold readRun
      simp only [List.cons_append, skipSpace_cons (not_isSpace_of_isAlpha letter),
        List.takeWhile_cons, not_isDigit_of_isAlpha letter]
      rfl
    unfold readNumber
    rw [nothing]
    rfl

theorem follows_mark {c : Char} {tail : List Char} (digit : c.isDigit = false)
    (letter : c.isAlpha = false) (solid : isSpace c = false) (other : c ∉ marks) :
    Follows marks (c :: tail) := by
  constructor
  · intro d hd
    cases hd
    exact ⟨digit, letter⟩
  · intro d hd
    rw [skipSpace_cons solid] at hd
    cases hd
    exact other

section Pair

variable {α : Type} {read : Reader α} {a b : α} {first second : List Char}

theorem readPair_append
    (fst : ∀ tail, Follows [] tail → read (first ++ tail) = some (a, skipSpace tail))
    (snd : read (second ++ rest) = some (b, skipSpace rest)) :
    readPair read (first ++ '-' :: second ++ rest) = some ((a, b), skipSpace rest) := by
  have hyphen : Follows [] ('-' :: (second ++ rest)) :=
    follows_mark (by decide) (by decide) (by decide) List.not_mem_nil
  have start : skipSpace ('-' :: (second ++ rest)) = '-' :: (second ++ rest) :=
    skipSpace_cons (by decide)
  unfold readPair
  rw [List.append_assoc, List.cons_append, fst _ hyphen, start]
  simp only [Option.bind_eq_bind, Option.bind_some, FlagAlerts.Schedule.readChar, if_pos, snd]
  rfl

/-- Where no hyphen follows there is no pair. -/
theorem readPair_of_lone {cs behind : List Char} (fst : read cs = some (a, behind))
    (lone : FlagAlerts.Schedule.readChar '-' behind = none) : readPair read cs = none := by
  unfold readPair
  simp [fst, lone]

theorem readPair_of_none {cs : List Char} (fst : read cs = none) : readPair read cs = none := by
  unfold readPair
  rw [fst]
  rfl

end Pair

/-- A text that starts with neither a star nor a question mark is read as a pair or as a lone number
or name. -/
theorem readSpan_of_other {cs : List Char} (star : ∀ tail, cs ≠ '*' :: tail)
    (mark : ∀ tail, cs ≠ '?' :: tail) :
    readSpan allowsAny cs =
      ((readPair readNumber cs).map fun x => (.range x.1.1 x.1.2, x.2)).or
        (((readNumber cs).map fun x => (.point x.1, x.2)).or
          (((readPair readName cs).map fun x => (.nameRange x.1.1 x.1.2, x.2)).or
            ((readName cs).map fun x => (.name x.1, x.2)))) := by
  unfold readSpan
  split
  next tail => exact absurd rfl (star tail)
  next =>
    split
    next tail _ => exact absurd rfl (mark tail)
    next => simp only [Option.orElse_eq_orElse, Option.orElse_eq_or]

/-- A run of some class does not start with a character that is not of it. -/
theorem append_ne_cons {p : Char → Bool} {c : Char} (nonempty : run ≠ [])
    (all : ∀ d ∈ run, p d = true) (other : p c = false) (tail : List Char) :
    run ++ rest ≠ c :: tail := by
  cases run with
  | nil => exact absurd rfl nonempty
  | cons d more =>
    intro same
    have first := all d List.mem_cons_self
    rw [(List.cons.inj same).1, other] at first
    cases first

/-- A text that starts with a run of digits is read as a pair of numbers or as a lone one. -/
theorem readSpan_of_digits (nonempty : run ≠ []) (digits : ∀ c ∈ run, c.isDigit = true) :
    readSpan allowsAny (run ++ rest) =
      ((readPair readNumber (run ++ rest)).map fun x => (.range x.1.1 x.1.2, x.2)).or
        (((readNumber (run ++ rest)).map fun x => (.point x.1, x.2)).or
          (((readPair readName (run ++ rest)).map fun x => (.nameRange x.1.1 x.1.2, x.2)).or
            ((readName (run ++ rest)).map fun x => (.name x.1, x.2)))) :=
  readSpan_of_other (append_ne_cons nonempty digits (by decide))
    (append_ne_cons nonempty digits (by decide))

/-- A text that starts with a name is read as a pair of names or as a lone one. -/
theorem readSpan_of_name {s : String} (letters : IsName run s) :
    readSpan allowsAny (run ++ rest) =
      ((readPair readName (run ++ rest)).map fun x => (Span.nameRange x.1.1 x.1.2, x.2)).or
        ((readName (run ++ rest)).map fun x => (.name x.1, x.2)) := by
  have number : readNumber (run ++ rest) = none := readNumber_of_isName letters
  rw [readSpan_of_other (append_ne_cons letters.nonempty letters.letters (by decide))
    (append_ne_cons letters.nonempty letters.letters (by decide)), readPair_of_none number, number]
  rfl

/-- A span is read up to its end, and maybe the blanks behind it. -/
theorem readSpan_append {span : Span} {text : List Char} (spells : SpellsSpan allowsAny span text)
    (follows : Follows ['-'] rest) :
    ∃ behind, readSpan allowsAny (text ++ rest) = some (span, behind) ∧
      (behind = rest ∨ behind = skipSpace rest) := by
  have lone : readChar '-' (skipSpace rest) = none :=
    follows.readChar List.mem_cons_self (by decide) (.inr rfl)
  have any : Follows [] rest := follows.weaken (List.nil_subset _)
  cases spells with
  | all => exact ⟨rest, rfl, .inl rfl⟩
  | any allowed =>
    subst allowed
    exact ⟨rest, rfl, .inl rfl⟩
  | point numeral =>
    have single := readNumber_append numeral any
    refine ⟨skipSpace rest, ?_, .inr rfl⟩
    rw [readSpan_of_digits numeral.nonempty numeral.digits, readPair_of_lone single lone, single]
    rfl
  | @range a b first last fst snd =>
    have pair := readPair_append (fun tail => readNumber_append fst) (readNumber_append snd any)
    refine ⟨skipSpace rest, ?_, .inr rfl⟩
    have start : readSpan allowsAny (a ++ ('-' :: b ++ rest)) = _ :=
      readSpan_of_digits fst.nonempty fst.digits
    rw [← List.append_assoc] at start
    rw [start, pair]
    rfl
  | name letters =>
    have single := readName_append letters any
    refine ⟨skipSpace rest, ?_, .inr rfl⟩
    rw [readSpan_of_name letters, readPair_of_lone single lone, single]
    rfl
  | @nameRange a b first last fst snd =>
    have pair := readPair_append (fun tail => readName_append fst) (readName_append snd any)
    refine ⟨skipSpace rest, ?_, .inr rfl⟩
    have start : readSpan allowsAny (a ++ ('-' :: b ++ rest)) = _ := readSpan_of_name fst
    rw [← List.append_assoc] at start
    rw [start, pair]
    rfl

/-- An item is read up to its end, and maybe the blanks behind it. -/
theorem readItem_append {item : Item} {text : List Char} (spells : SpellsItem allowsAny item text)
    (follows : Follows ['-', '/'] rest) :
    ∃ behind, readItem allowsAny (text ++ rest) = some (item, behind) ∧
      (behind = rest ∨ behind = skipSpace rest) := by
  have short : ['-'] ⊆ ['-', '/'] := by simp
  cases spells with
  | @whole span _ spells =>
    obtain ⟨behind, reading, reached⟩ := readSpan_append spells (follows.weaken short)
    have stepless : readStep behind = none := by
      unfold readStep
      rw [follows.readChar (by simp) (by decide) reached]
      rfl
    refine ⟨behind, ?_, reached⟩
    unfold readItem
    rw [reading]
    simp only [Option.bind_eq_bind, Option.bind_some, stepless]
    cases span <;> rfl
  | @stepped span text run step spells unnamed numeral =>
    have slash : Follows ['-'] ('/' :: run ++ rest) :=
      follows_mark (by decide) (by decide) (by decide) (by decide)
    obtain ⟨behind, reading, reached⟩ := readSpan_append spells slash
    have start : skipSpace ('/' :: run ++ rest) = '/' :: run ++ rest := skipSpace_cons (by decide)
    rw [start, or_self] at reached
    have stepped : readStep behind = some (step, skipSpace rest) := by
      have single := readNumber_append numeral (follows.weaken (List.nil_subset _))
      rw [reached]
      unfold readStep
      simp [readChar, single]
    refine ⟨skipSpace rest, ?_, .inr rfl⟩
    unfold readItem
    rw [List.append_assoc, reading]
    simp only [Option.bind_eq_bind, Option.bind_some, stepped]
    cases span with
    | name s => exact absurd rfl (unnamed s)
    | _ => rfl

/-- The marks that go on with a field. -/
def fieldMarks : List Char := ['-', '/', ',']

/-- What comes after an item of a field does not go on with the item. -/
theorem SpellsMore.follows {items : List Item} {more : List Char}
    (spells : SpellsMore allowsAny items more) (follows : Follows fieldMarks rest) :
    Follows ['-', '/'] (more ++ rest) := by
  cases spells with
  | nil => exact follows.weaken (by simp [fieldMarks])
  | cons first others => exact follows_mark (by decide) (by decide) (by decide) (by decide)

theorem readMoreItems_append {items : List Item} {more : List Char}
    (spells : SpellsMore allowsAny items more) (follows : Follows fieldMarks rest) {fuel : Nat}
    (enough : more.length ≤ fuel) {behind : List Char}
    (reached : behind = more ++ rest ∨ behind = skipSpace (more ++ rest)) :
    ∃ behind', readMoreItems allowsAny fuel behind = (items, behind') ∧
      skipSpace behind' = skipSpace rest := by
  induction spells generalizing fuel behind with
  | nil =>
    have ends : readChar ',' behind = none :=
      follows.readChar (by simp [fieldMarks]) (by decide) reached
    have same : skipSpace behind = skipSpace rest := by
      rcases reached with rfl | rfl
      · rfl
      · exact skipSpace_skipSpace rest
    refine ⟨behind, ?_, same⟩
    cases fuel with
    | zero => rfl
    | succ fuel =>
      rw [readMoreItems, ends]
  | @cons item items text more first others ih =>
    have start : skipSpace (',' :: (text ++ more) ++ rest) = ',' :: (text ++ more) ++ rest :=
      skipSpace_cons (by decide)
    rw [start, or_self] at reached
    obtain ⟨behind', reading, reached'⟩ := readItem_append first (others.follows follows)
    cases fuel with
    | zero => simp at enough
    | succ fuel =>
      have enough' : more.length ≤ fuel := by
        simp only [List.length_cons, List.length_append] at enough
        omega
      obtain ⟨behind'', rest', same⟩ := ih enough' reached'
      refine ⟨behind'', ?_, same⟩
      rw [readMoreItems, reached, List.cons_append, List.append_assoc]
      simp only [readChar, if_pos, reading, rest']

/-- A run starts with neither a blank nor a mark, if its class has none of them. -/
theorem exists_start {p : Char → Bool} (nonempty : run ≠ []) (all : ∀ c ∈ run, p c = true)
    (solid : ∀ c, p c = true → isSpace c = false) (other : ∀ mark ∈ fieldMarks, p mark = false) :
    ∃ c tail, run = c :: tail ∧ isSpace c = false ∧ c ∉ fieldMarks := by
  obtain ⟨c, tail, rfl⟩ := List.exists_cons_of_ne_nil nonempty
  have own := all c List.mem_cons_self
  refine ⟨c, tail, rfl, solid c own, fun mark => ?_⟩
  rw [other c mark] at own
  cases own

theorem SpellsSpan.start {span : Span} {text : List Char} (spells : SpellsSpan allowsAny span text) :
    ∃ c tail, text = c :: tail ∧ isSpace c = false ∧ c ∉ fieldMarks := by
  have digit {run : List Char} {n : Nat} (numeral : IsNumeral run n) :=
    exists_start numeral.nonempty numeral.digits (fun _ => not_isSpace_of_isDigit) (by simp [fieldMarks])
  have letter {run : List Char} {s : String} (letters : IsName run s) :=
    exists_start letters.nonempty letters.letters (fun _ => not_isSpace_of_isAlpha) (by simp [fieldMarks])
  cases spells with
  | all => exact ⟨'*', [], rfl, by decide, by decide⟩
  | any => exact ⟨'?', [], rfl, by decide, by decide⟩
  | point numeral => exact digit numeral
  | name letters => exact letter letters
  | range fst snd =>
    obtain ⟨c, tail, rfl, plain, other⟩ := digit fst
    exact ⟨c, _, rfl, plain, other⟩
  | nameRange fst snd =>
    obtain ⟨c, tail, rfl, plain, other⟩ := letter fst
    exact ⟨c, _, rfl, plain, other⟩

theorem SpellsField.start {items : List Item} {text : List Char}
    (spells : SpellsField allowsAny items text) :
    ∃ c tail, text = c :: tail ∧ isSpace c = false ∧ c ∉ fieldMarks := by
  cases spells with
  | items first rest =>
    cases first with
    | whole span =>
      obtain ⟨c, tail, rfl, plain, other⟩ := span.start
      exact ⟨c, _, rfl, plain, other⟩
    | stepped span unnamed numeral =>
      obtain ⟨c, tail, rfl, plain, other⟩ := span.start
      exact ⟨c, _, rfl, plain, other⟩

/-- A field is read up to its end and the blanks behind it. -/
theorem readField_append {items : List Item} {text : List Char}
    (spells : SpellsField allowsAny items text) (follows : Follows fieldMarks rest) :
    readField allowsAny (text ++ rest) = some (items, skipSpace rest) := by
  obtain ⟨c, tail, same, plain, -⟩ := spells.start
  have start : skipSpace (text ++ rest) = text ++ rest := by
    rw [same]
    exact skipSpace_cons plain
  cases spells with
  | @items item items text more first others =>
    obtain ⟨behind, reading, reached⟩ := readItem_append first (others.follows follows)
    have enough : more.length ≤ behind.length := by
      cases others with
      | nil => exact Nat.zero_le _
      | cons next rest' =>
        rw [List.cons_append, skipSpace_cons (by decide), or_self] at reached
        rw [reached]
        simp
    obtain ⟨behind', others', ends⟩ := readMoreItems_append others follows enough reached
    unfold readField
    rw [start, List.append_assoc, reading]
    simp only [Option.bind_eq_bind, Option.bind_some, others', ends]
    rfl

/-! ### Six fields -/

/-- A field behind a blank is apart from the field before. -/
theorem SpellsField.follows {items : List Item} {text : List Char}
    (spells : SpellsField allowsAny items text) :
    Follows fieldMarks (' ' :: (text ++ rest)) ∧ skipSpace (' ' :: (text ++ rest)) = text ++ rest := by
  obtain ⟨c, tail, rfl, plain, other⟩ := spells.start
  have behind : skipSpace (' ' :: (c :: tail ++ rest)) = c :: tail ++ rest := skipSpace_cons plain
  refine ⟨⟨fun d hd => ?_, fun d hd => ?_⟩, behind⟩
  · cases hd
    decide
  · rw [behind] at hd
    cases hd
    exact other

/-- Six fields with a blank between them are read one by one. -/
theorem readFields_append {e : Expression} {s m h d mo w : List Char}
    (seconds : SpellsField false e.seconds s) (minutes : SpellsField false e.minutes m)
    (hours : SpellsField false e.hours h) (daysOfMonth : SpellsField true e.daysOfMonth d)
    (months : SpellsField false e.months mo) (daysOfWeek : SpellsField true e.daysOfWeek w)
    (years : e.years = Expression.every) :
    Expression.readFields (s ++ ' ' :: (m ++ ' ' :: (h ++ ' ' :: (d ++ ' ' :: (mo ++ ' ' :: w))))) =
      some (e, []) := by
  have noYears : readField false [] = none := by decide
  have ended : skipSpace [] = [] := rfl
  rw [← List.append_nil w]
  unfold Expression.readFields
  simp only [readField_append seconds minutes.follows.1, minutes.follows.2,
    readField_append minutes hours.follows.1, hours.follows.2,
    readField_append hours daysOfMonth.follows.1, daysOfMonth.follows.2,
    readField_append daysOfMonth months.follows.1, months.follows.2,
    readField_append months daysOfWeek.follows.1, daysOfWeek.follows.2,
    readField_append daysOfWeek follows_nil, ended, noYears, Option.bind_eq_bind, Option.bind_some,
    Option.getD_none, ← years]
  rfl

/-- An expression of six fields that starts with a zero is made of these fields. -/
theorem parse?_of_fields {e : Expression} {m h d mo w : String}
    (seconds : e.seconds = Expression.only 0) (minutes : SpellsField false e.minutes m.toList)
    (hours : SpellsField false e.hours h.toList)
    (daysOfMonth : SpellsField true e.daysOfMonth d.toList)
    (months : SpellsField false e.months mo.toList)
    (daysOfWeek : SpellsField true e.daysOfWeek w.toList) (years : e.years = Expression.every) :
    Expression.parse? (" ".intercalate ["0", m, h, d, mo, w]) = some e := by
  have zero : SpellsField false e.seconds ['0'] := by
    have numeral : IsNumeral ['0'] 0 := ⟨by decide, by simp, by decide, by decide⟩
    rw [seconds]
    show SpellsField false (Expression.only 0) (['0'] ++ [])
    exact .items (.whole (.point numeral)) .nil
  have text : (" ".intercalate ["0", m, h, d, mo, w]).toList =
      ['0'] ++ ' ' :: (m.toList ++ ' ' :: (h.toList ++ ' ' :: (d.toList ++ ' ' :: (mo.toList ++
        ' ' :: w.toList)))) := by
    simp
  have keyless : Expression.keywords.find? (·.1 == " ".intercalate ["0", m, h, d, mo, w]) = none := by
    have marked : ∀ keyword ∈ Expression.keywords, keyword.1.toList.head? = some '@' := by decide
    apply List.find?_eq_none.2
    intro keyword member same
    have start := marked keyword member
    rw [beq_iff_eq.1 same, text] at start
    cases start
  unfold Expression.parse?
  rw [keyless, text, readFields_append zero minutes hours daysOfMonth months daysOfWeek years]

end Complete

end FlagAlerts.Schedule
