import FlagAlerts.Json.Document
import FlagAlerts.Proofs.Text.Decimal

/-!
# Reading back the compact text of a value

The compact text of a value is read as the document of the value, whatever follows it, as long as
what follows does not go on with a number. Texts are read back whatever characters they have, and
numbers if they fit 64 bits.
-/

namespace FlagAlerts

open FlagAlerts.Text

mutual

/-- Whether all numbers in a value fit 64 bits. -/
def Json.InRange : Json → Prop
  | .int n => minInt64 ≤ n ∧ n ≤ maxUInt64
  | .list items => Json.InRangeItems items
  | .record fields => Json.InRangeFields fields
  | .null | .bool _ | .text _ => True

/-- Whether all numbers in the items of a list fit 64 bits. -/
def Json.InRangeItems : List Json → Prop
  | [] => True
  | item :: items => Json.InRange item ∧ Json.InRangeItems items

/-- Whether all numbers in the fields of a record fit 64 bits. -/
def Json.InRangeFields : List (String × Json) → Prop
  | [] => True
  | (_, value) :: fields => Json.InRange value ∧ Json.InRangeFields fields

end

namespace Doc

open Json

/-! ## Texts -/

section Texts

variable {c : Char}

/-- The ways to write a character of a text. -/
inductive Escaped (c : Char) : List Char → Prop where
  | letter {x : Char} (known : unescape? x = some c) : Escaped c ['\\', x]
  | number (low : c.toNat < 0x20) :
    Escaped c ['\\', 'u', '0', '0', hexChar (c.toNat / 16), hexChar (c.toNat % 16)]
  | plain (noQuote : c ≠ '"') (noBackslash : c ≠ '\\') (high : ¬ c.toNat < 0x20) : Escaped c [c]

theorem escapeChar_escaped (c : Char) : Escaped c (escapeChar c) := by
  unfold escapeChar
  repeat' split
  all_goals try (subst_vars; exact .letter rfl)
  next low => exact .number low
  next noQuote noBackslash _ _ _ _ _ high => exact .plain noQuote noBackslash high

theorem hexValue?_hexChar {n : Nat} (h : n < 16) : hexValue? (hexChar n) = some n := by
  interval_cases n <;> rfl

/-- The number of a control character, as it is written. -/
theorem hex4?_control (low : c.toNat < 0x20) :
    hex4? (some '0') (some '0') (some (hexChar (c.toNat / 16))) (some (hexChar (c.toNat % 16))) =
      some c.toNat := by
  have zero : hexValue? '0' = some 0 := rfl
  have high : hexValue? (hexChar (c.toNat / 16)) = some (c.toNat / 16) :=
    hexValue?_hexChar (by omega)
  have last : hexValue? (hexChar (c.toNat % 16)) = some (c.toNat % 16) :=
    hexValue?_hexChar (Nat.mod_lt _ (by decide))
  simp only [hex4?, zero, high, last, Option.bind_eq_bind, Option.bind_some, Option.pure_def,
    Option.some.injEq]
  omega

theorem pushUnit_control (low : c.toNat < 0x20) (cs : List Char) :
    TextSoFar.pushUnit c.toNat (.read (some cs) none) = .read (some (c :: cs)) none := by
  have noHigh : ¬ (0xD800 ≤ c.toNat && c.toNat ≤ 0xDBFF) = true := by simp; omega
  have noLow : ¬ (0xDC00 ≤ c.toNat && c.toNat ≤ 0xDFFF) = true := by simp; omega
  rw [TextSoFar.pushUnit, if_neg noHigh, if_neg noLow, Char.ofNat_toNat]
  rfl

/-- A character is read back, in whichever way it is written. -/
theorem Escaped.readText {written : List Char} (h : Escaped c written) (cs : List Char)
    (rest : List Symbol) :
    readText (.read (some cs) none) (written.map some ++ rest) =
      readText (.read (some (c :: cs)) none) rest := by
  cases h with
  | @letter x known =>
    have noNumber : x ≠ 'u' := by
      rintro rfl
      cases known
    simp only [List.map_cons, List.map_nil, List.cons_append, List.nil_append]
    rw [Doc.readText, known]
    · rfl
    · intro _ _ _ _ _ _ same
      exact noNumber same
  | number low =>
    simp only [List.map_cons, List.map_nil, List.cons_append, List.nil_append]
    rw [Doc.readText, hex4?_control low]
    simp only [pushUnit_control low]
  | plain noQuote noBackslash high =>
    simp only [List.map_cons, List.map_nil, List.cons_append, List.nil_append]
    rw [Doc.readText, if_neg high]
    · rfl
    all_goals simp [noQuote, noBackslash]

theorem readText_escaped (cs done : List Char) (rest : List Symbol) :
    readText (.read (some done) none) ((cs.flatMap escapeChar).map some ++ some '"' :: rest) =
      .ok (some (String.ofList (done.reverse ++ cs)), rest) := by
  induction cs generalizing done with
  | nil => simp [readText, TextSoFar.close]
  | cons c cs ih =>
    rw [List.flatMap_cons, List.map_append, List.append_assoc, (escapeChar_escaped c).readText, ih]
    simp

/-- A text is read back, up to its closing quote. -/
theorem readText_textChars (s : String) (rest : List Symbol) :
    ∃ body, (textChars s).map some ++ rest = some '"' :: body ∧
      readText .start body = .ok (some s, rest) := by
  refine ⟨(s.toList.flatMap escapeChar).map some ++ some '"' :: rest, by simp [textChars], ?_⟩
  rw [TextSoFar.start, readText_escaped]
  simp

end Texts

/-! ## Numbers -/

section Numbers

variable {rest : List Symbol}

/-- What may follow a value: the end of the text, or one of the marks after an item or a field. -/
inductive Follows : List Symbol → Prop where
  | nothing : Follows []
  | comma (rest : List Symbol) : Follows (some ',' :: rest)
  | listEnd (rest : List Symbol) : Follows (some ']' :: rest)
  | recordEnd (rest : List Symbol) : Follows (some '\x7d' :: rest)

theorem spanDigits_of_follows (follows : Follows rest) : spanDigits rest = ([], rest) := by
  cases follows <;> rfl

theorem readFraction_of_follows (follows : Follows rest) : readFraction rest = .ok (none, rest) := by
  cases follows <;> rfl

theorem readExponent_of_follows (follows : Follows rest) : readExponent rest = .ok (none, rest) := by
  cases follows <;> rfl

theorem spanDigits_append {ds : List Char} (all : ∀ d ∈ ds, d.isDigit = true) :
    spanDigits (ds.map some ++ rest) = (ds ++ (spanDigits rest).1, (spanDigits rest).2) := by
  have digits : ∀ c ∈ ds.map some, isDigit c = true := by
    intro c hc
    obtain ⟨d, hd, rfl⟩ := List.mem_map.1 hc
    exact all d hd
  rw [spanDigits, List.takeWhile_append_of_pos digits, List.dropWhile_append_of_pos digits,
    List.filterMap_append]
  simp [spanDigits, List.filterMap_map]

/-- No numeral but that of zero starts with a zero. -/
theorem head?_digits {n : Nat} (h : 0 < n) : (digits n).head? ≠ some '0' := by
  induction n using digits.induct with
  | case1 n small =>
    rw [digits, if_pos small]
    interval_cases n <;> decide
  | case2 n large ih =>
    have first := List.head?_eq_some_head (digits_ne_nil (n / 10))
    rw [digits, if_neg large, List.head?_append, first, Option.some_or, ← first]
    exact ih (by omega)

theorem readWhole_digits (n : Nat) (follows : Follows rest) :
    readWhole ((digits n).map some ++ rest) = .ok (digits n, rest) := by
  have span : spanDigits ((digits n).map some ++ rest) = (digits n, rest) := by
    rw [spanDigits_append (isDigit_of_mem_digits n), spanDigits_of_follows follows, List.append_nil]
  have read : readDigits ((digits n).map some ++ rest) = .ok (digits n, rest) := by
    rw [readDigits, span]
    split
    next same => exact absurd (congrArg (·.1) same) (digits_ne_nil n)
    next same => exact absurd (congrArg (·.1) same) (digits_ne_nil n)
    next => rfl
  rw [readWhole, read]
  simp only [bind, Except.bind, pure, Except.pure]
  split
  next d tail same =>
    rcases Nat.eq_zero_or_pos n with rfl | positive
    · rw [digits] at same
      cases same
    · exact absurd (by rw [same]; rfl) (head?_digits positive)
  next => rfl

theorem ofNumber_digits {n : Nat} (high : n ≤ maxUInt64) :
    ofNumber false (digits n) none none = .int n := by
  have least : minInt64 ≤ (n : Int) := by
    rw [minInt64]
    omega
  simp [ofNumber, ofDigits_digits, least, high]

theorem ofNumber_negative {n : Nat} (low : minInt64 ≤ Int.negSucc n) :
    ofNumber true (digits (n + 1)) none none = .int (Int.negSucc n) := by
  have whole : (if true then -(ofDigits (digits (n + 1)) : Int) else ofDigits (digits (n + 1))) =
      Int.negSucc n := by
    rw [ofDigits_digits]
    rfl
  have most : Int.negSucc n ≤ maxUInt64 := by omega
  have nonzero : Int.negSucc n ≠ 0 := by omega
  rw [ofNumber, whole]
  generalize Int.negSucc n = z at low most nonzero
  simp [low, most, nonzero]

/-- A numeral, with a minus sign for a negative number, is read back if it fits 64 bits. -/
theorem readNumber_decimalInt {n : Int} (inRange : minInt64 ≤ n ∧ n ≤ maxUInt64)
    (follows : Follows rest) :
    readNumber ((decimalInt n).toList.map some ++ rest) = .ok (.int n, rest) := by
  cases n with
  | ofNat n =>
    rw [decimalInt, toList_decimal, readNumber]
    · simp only [readWhole_digits n follows, readFraction_of_follows follows,
        readExponent_of_follows follows, bind, Except.bind, pure, Except.pure]
      rw [ofNumber_digits (Int.ofNat_le.1 inRange.2)]
      rfl
    · intro tail same
      obtain ⟨d, ds, start⟩ := List.exists_cons_of_ne_nil (digits_ne_nil n)
      have digit := isDigit_of_mem_digits n d (by simp [start])
      rw [start] at same
      cases same
      exact absurd digit (by decide)
  | negSucc n =>
    have written : (decimalInt (Int.negSucc n)).toList = '-' :: digits (n + 1) := by
      rw [decimalInt, String.toList_append, toList_decimal]
      rfl
    rw [written, List.map_cons, List.cons_append, readNumber]
    simp only [readWhole_digits (n + 1) follows, readFraction_of_follows follows,
      readExponent_of_follows follows, bind, Except.bind, pure, Except.pure]
    rw [ofNumber_negative inRange.1]

end Numbers

/-! ## Values -/

section Values

variable {c : Char} {cs rest tail : List Symbol} {fuel : Nat}

/-- What the text of a value can start with: no blank and no end of a list. -/
def StartsValue (c : Char) : Prop := isSpace c = false ∧ c ≠ ']'

theorem skipSpace_cons (h : isSpace c = false) : skipSpace (some c :: rest) = some c :: rest := by
  simp [skipSpace, h]

theorem startsValue_of_isDigit (h : c.isDigit = true) : StartsValue c := by
  constructor
  · unfold isSpace
    simp only [Bool.or_eq_false_iff, beq_eq_false_iff_ne]
    refine ⟨⟨⟨?_, ?_⟩, ?_⟩, ?_⟩ <;> rintro rfl <;> revert h <;> decide
  · rintro rfl
    revert h
    decide

/-- The text of an integer starts with a minus sign or a digit. -/
theorem decimalInt_start (n : Int) :
    ∃ c cs, (decimalInt n).toList = c :: cs ∧ (c = '-' ∨ c.isDigit = true) := by
  cases n with
  | ofNat n =>
    obtain ⟨d, ds, start⟩ := List.exists_cons_of_ne_nil (digits_ne_nil n)
    refine ⟨d, ds, by rw [decimalInt, toList_decimal, start], .inr ?_⟩
    exact isDigit_of_mem_digits n d (by simp [start])
  | negSucc n =>
    refine ⟨'-', digits (n + 1), ?_, .inl rfl⟩
    rw [decimalInt, String.toList_append, toList_decimal]
    rfl

/-- The text of a value starts with a mark that is seen as the start of a value. -/
theorem chars_start (j : Json) : ∃ c cs, j.chars = c :: cs ∧ StartsValue c := by
  cases j with
  | null => exact ⟨_, _, rfl, by decide, by decide⟩
  | bool b => cases b <;> exact ⟨_, _, rfl, by decide, by decide⟩
  | text s => exact ⟨_, _, rfl, by decide, by decide⟩
  | list items => cases items <;> exact ⟨_, _, rfl, by decide, by decide⟩
  | record fields => cases fields <;> exact ⟨_, _, rfl, by decide, by decide⟩
  | int n =>
    obtain ⟨c, cs, start, minus | digit⟩ := decimalInt_start n
    · exact ⟨c, cs, start, by subst minus; decide, by subst minus; decide⟩
    · exact ⟨c, cs, start, startsValue_of_isDigit digit⟩

/-- The text of an integer is read as the integer. -/
theorem readValue_decimalInt {n : Int} (inRange : minInt64 ≤ n ∧ n ≤ maxUInt64)
    (follows : Follows rest) :
    readValue (fuel + 1) ((decimalInt n).toList.map some ++ rest) = (.int n, some rest) := by
  obtain ⟨c, cs, start, mark⟩ := decimalInt_start n
  have number := readNumber_decimalInt inRange follows
  rw [start, List.map_cons, List.cons_append] at number ⊢
  rcases mark with rfl | digit
  · simp [readValue, skipSpace, isSpace, number, Except.mapError, ofRead]
  · rw [readValue, skipSpace_cons (startsValue_of_isDigit digit).1]
    split
    -- A digit is none of the other marks that a value can start with.
    case h_8 same =>
      cases same
      have number' : isDigit (some c) = true := digit
      simp [number', number, Except.mapError, ofRead]
    all_goals
      next same =>
        cases same
        try exact absurd digit (by decide)

/-- An item, the first of a list or one after a comma, is read before the items after it. -/
theorem readItems_of_read {item : Json} {d : Doc} {items : List Doc}
    (value : readValue fuel (item.chars.map some ++ tail) = (d, some tail))
    (others : readItems fuel false tail = ((items, none), some rest)) :
    readItems (fuel + 2) true (item.chars.map some ++ tail) = ((d :: items, none), some rest) ∧
      readItems (fuel + 2) false (some ',' :: (item.chars.map some ++ tail)) =
        ((d :: items, none), some rest) := by
  have read : readItem (fuel + 1) (item.chars.map some ++ tail) = ((d :: items, none), some rest) := by
    simp only [readItem, value, others]
  obtain ⟨c, cs, start, noSpace, noEnd⟩ := chars_start item
  rw [start, List.map_cons, List.cons_append] at read ⊢
  have comma (cs : List Symbol) : skipSpace (some ',' :: cs) = some ',' :: cs := rfl
  constructor
  · simp [readItems, skipSpace_cons noSpace, noEnd, read]
  · simp [readItems, comma, skipSpace_cons noSpace, noEnd, read]

/-- An entry, the first of a record or one after a comma, is read before the entries after it. -/
theorem readEntries_of_read (name : String) {d : Doc} {entries : List (Key × Doc)}
    (value : readValue fuel cs = (d, some tail))
    (others : readEntries fuel false tail = ((entries, none), some rest)) :
    readEntries (fuel + 2) true ((textChars name).map some ++ some ':' :: cs) =
        (((.text name, d) :: entries, none), some rest) ∧
      readEntries (fuel + 2) false (some ',' :: ((textChars name).map some ++ some ':' :: cs)) =
        (((.text name, d) :: entries, none), some rest) := by
  obtain ⟨body, written, text⟩ := readText_textChars name (some ':' :: cs)
  have colon : skipSpace (some ':' :: cs) = some ':' :: cs := rfl
  have read : readEntry (fuel + 1) (some '"' :: body) =
      (((.text name, d) :: entries, none), some rest) := by
    rw [readEntry, text]
    simp only [Option.elim, colon, value, others]
  rw [written]
  constructor <;> simp [readEntries, skipSpace, isSpace, read]

theorem follows_itemChars (items : List Json) (rest : List Symbol) :
    Follows ((itemChars items).map some ++ rest) := by
  cases items with
  | nil => exact .listEnd rest
  | cons item items => exact .comma _

theorem follows_fieldChars (fields : List (String × Json)) (rest : List Symbol) :
    Follows ((fieldChars fields).map some ++ rest) := by
  cases fields with
  | nil => exact .recordEnd rest
  | cons field fields => exact .comma _

mutual

/-- The text of a value is read as the document of the value. -/
theorem readValue_chars (j : Json) (fuel : Nat) (rest : List Symbol) (inRange : j.InRange)
    (follows : Follows rest) (enough : 3 * j.chars.length ≤ fuel) :
    readValue fuel (j.chars.map some ++ rest) = (j.doc, some rest) := by
  obtain ⟨c, cs, start, mark⟩ := chars_start j
  obtain ⟨fuel, rfl⟩ : ∃ n, fuel = n + 1 := by
    rw [start, List.length_cons] at enough
    exact ⟨fuel - 1, by omega⟩
  cases j with
  | null => rfl
  | bool b => cases b <;> rfl
  | int n =>
    rw [Json.InRange] at inRange
    rw [chars, readValue_decimalInt inRange follows, Json.doc, if_pos]
    simpa using inRange
  | text s =>
    obtain ⟨body, written, read⟩ := readText_textChars s rest
    rw [chars, written]
    simp [readValue, skipSpace, isSpace, read, Except.map, ofRead, Json.doc]
  | list items =>
    cases items with
    | nil => 
      obtain ⟨fuel, rfl⟩ : ∃ n, fuel = n + 1 := ⟨fuel - 1, by simp [chars] at enough; omega⟩
      rfl
    | cons item items =>
      simp only [Json.InRange, Json.InRangeItems] at inRange
      simp only [chars, List.length_cons, List.length_append] at enough
      obtain ⟨fuel, rfl⟩ : ∃ n, fuel = n + 2 := ⟨fuel - 2, by omega⟩
      have read := readItems_of_read
        (readValue_chars item fuel _ inRange.1 (follows_itemChars items rest) (by omega))
        (readItems_itemChars items fuel rest inRange.2 (by omega))
      simp [chars, readValue, skipSpace, isSpace, read.1, Json.doc, Json.docItems]
  | record fields =>
    cases fields with
    | nil =>
      obtain ⟨fuel, rfl⟩ : ∃ n, fuel = n + 1 := ⟨fuel - 1, by simp [chars] at enough; omega⟩
      rfl
    | cons field fields =>
      obtain ⟨name, value⟩ := field
      simp only [Json.InRange, Json.InRangeFields] at inRange
      simp only [chars, List.length_cons, List.length_append] at enough
      obtain ⟨fuel, rfl⟩ : ∃ n, fuel = n + 2 := ⟨fuel - 2, by omega⟩
      have value := readValue_chars value fuel _ inRange.1 (follows_fieldChars fields rest) (by omega)
      have read := (readEntries_of_read name value
        (readEntries_fieldChars fields fuel rest inRange.2 (by omega))).1
      simp [chars, readValue, skipSpace, isSpace, read, Json.doc, Json.docEntries]

/-- The items of a list after the first are read up to the end of the list. -/
theorem readItems_itemChars (items : List Json) (fuel : Nat) (rest : List Symbol)
    (inRange : Json.InRangeItems items) (enough : 3 * (itemChars items).length ≤ fuel) :
    readItems fuel false ((itemChars items).map some ++ rest) =
      ((Json.docItems items, none), some rest) := by
  cases items with
  | nil =>
    obtain ⟨fuel, rfl⟩ : ∃ n, fuel = n + 1 := ⟨fuel - 1, by simp [itemChars] at enough; omega⟩
    rfl
  | cons item items =>
    simp only [Json.InRangeItems] at inRange
    simp only [itemChars, List.length_cons, List.length_append] at enough
    obtain ⟨fuel, rfl⟩ : ∃ n, fuel = n + 2 := ⟨fuel - 2, by omega⟩
    have read := readItems_of_read
      (readValue_chars item fuel _ inRange.1 (follows_itemChars items rest) (by omega))
      (readItems_itemChars items fuel rest inRange.2 (by omega))
    simpa [itemChars, Json.docItems] using read.2

/-- The fields of a record after the first are read up to the end of the record. -/
theorem readEntries_fieldChars (fields : List (String × Json)) (fuel : Nat) (rest : List Symbol)
    (inRange : Json.InRangeFields fields) (enough : 3 * (fieldChars fields).length ≤ fuel) :
    readEntries fuel false ((fieldChars fields).map some ++ rest) =
      ((Json.docEntries fields, none), some rest) := by
  cases fields with
  | nil =>
    obtain ⟨fuel, rfl⟩ : ∃ n, fuel = n + 1 := ⟨fuel - 1, by simp [fieldChars] at enough; omega⟩
    rfl
  | cons field fields =>
    obtain ⟨name, value⟩ := field
    simp only [Json.InRangeFields] at inRange
    simp only [fieldChars, List.length_cons, List.length_append] at enough
    obtain ⟨fuel, rfl⟩ : ∃ n, fuel = n + 2 := ⟨fuel - 2, by omega⟩
    have value := readValue_chars value fuel _ inRange.1 (follows_fieldChars fields rest) (by omega)
    have read := (readEntries_of_read name value
      (readEntries_fieldChars fields fuel rest inRange.2 (by omega))).2
    simpa [fieldChars, Json.docEntries] using read

end

/-- The compact text of a value whose numbers fit 64 bits is read as the document of the value. -/
theorem read_compact (j : Json) (inRange : j.InRange) :
    read (symbols j.compact) = (j.doc, none) := by
  have written : symbols j.compact = j.chars.map some ++ [] := by
    rw [symbols, compact, String.toList_ofList, List.append_nil]
  have value := readValue_chars j (3 * (symbols j.compact).length + 3) [] inRange .nothing
    (by simp [written])
  rw [← written] at value
  rw [read, value]
  rfl

end Values

end Doc

end FlagAlerts
