import FlagAlerts.Message.Escape
import Mathlib.Logic.Function.Basic

/-!
# Escaped texts

An escaped text has no angle brackets, and it tells the text that it was written for: its entities are
decoded from left to right, each of them once. It is what comes of writing the three special characters
as entities one after the other, if the ampersand is the first of them.
-/

namespace FlagAlerts.Message

/-- Decodes the entities of a text from left to right. -/
def unescapeChars : List Char → List Char
  | '&' :: 'a' :: 'm' :: 'p' :: ';' :: rest => '&' :: unescapeChars rest
  | '&' :: 'l' :: 't' :: ';' :: rest => '<' :: unescapeChars rest
  | '&' :: 'g' :: 't' :: ';' :: rest => '>' :: unescapeChars rest
  | c :: rest => c :: unescapeChars rest
  | [] => []

/-- The text that an escaped text was written for. -/
def unescape (s : String) : String := String.ofList (unescapeChars s.toList)

/-- A text has no angle brackets. -/
def IsPlain (cs : List Char) : Prop := ∀ c ∈ cs, c ≠ '<' ∧ c ≠ '>'

theorem unescapeChars_cons {c : Char} (other : c ≠ '&') (rest : List Char) :
    unescapeChars (c :: rest) = c :: unescapeChars rest := by
  rw [unescapeChars.eq_def]
  split <;> simp_all

theorem unescapeChars_escapeChar (c : Char) (rest : List Char) :
    unescapeChars (escapeChar c ++ rest) = c :: unescapeChars rest := by
  unfold escapeChar
  split
  next ampersand =>
    rw [ampersand]
    rfl
  next other =>
    split
    next opening =>
      rw [opening]
      rfl
    next =>
      split
      next closing =>
        rw [closing]
        rfl
      next => exact unescapeChars_cons other rest

theorem toList_escape (s : String) : (escape s).toList = s.toList.flatMap escapeChar :=
  String.toList_ofList

/-- An escaped text tells the text that it was written for. -/
theorem unescape_escape (s : String) : unescape (escape s) = s := by
  have chars (cs : List Char) : unescapeChars (cs.flatMap escapeChar) = cs := by
    induction cs with
    | nil => rfl
    | cons c rest ih => rw [List.flatMap_cons, unescapeChars_escapeChar, ih]
  rw [unescape, toList_escape, chars, String.ofList_toList]

theorem isPlain_escapeChar (c : Char) : IsPlain (escapeChar c) := by
  unfold IsPlain escapeChar
  split
  next => simp
  next =>
    split
    next => simp
    next notOpening =>
      split
      next => simp
      next notClosing => simp [notOpening, notClosing]

/-- An escaped text has no angle brackets. -/
theorem isPlain_escape (s : String) : IsPlain (escape s).toList := by
  intro d member
  rw [toList_escape] at member
  obtain ⟨c, -, written⟩ := List.mem_flatMap.1 member
  exact isPlain_escapeChar c d written

theorem isPlain_append {a b : List Char} : IsPlain (a ++ b) ↔ IsPlain a ∧ IsPlain b :=
  List.forall_mem_append

theorem isPlain_of_all {cs : List Char} (all : (cs.all fun c => c != '<' && c != '>') = true) :
    IsPlain cs := by
  intro c member
  simpa using List.all_eq_true.1 all c member

/-! ## Every ampersand begins an entity -/

/-- The entities. -/
def entities : List (List Char) :=
  [['&', 'a', 'm', 'p', ';'], ['&', 'l', 't', ';'], ['&', 'g', 't', ';']]

/-- Every ampersand of a text begins an entity. -/
def HasOnlyEntities (cs : List Char) : Prop :=
  ∀ rest, '&' :: rest <:+ cs → ∃ entity ∈ entities, entity <+: '&' :: rest

theorem HasOnlyEntities.append {cs ds : List Char} (first : HasOnlyEntities cs)
    (second : HasOnlyEntities ds) : HasOnlyEntities (cs ++ ds) := by
  induction cs with
  | nil => exact second
  | cons c cs ih =>
    intro rest suffix
    rcases List.suffix_cons_iff.1 suffix with whole | later
    · obtain ⟨rfl, rfl⟩ := List.cons.inj whole
      obtain ⟨entity, listed, begins⟩ := first cs (List.suffix_refl _)
      exact ⟨entity, listed, begins.trans (List.prefix_append _ ds)⟩
    · have others : HasOnlyEntities cs := fun rest suffix =>
        first rest (suffix.trans (List.suffix_cons c cs))
      exact ih others rest later

/-- A character is written as an entity, or it is no ampersand and written as it is. -/
theorem escapeChar_mem (c : Char) : escapeChar c ∈ entities ∨ c ≠ '&' ∧ escapeChar c = [c] := by
  unfold escapeChar
  split
  next => exact .inl (by decide)
  next other =>
    split
    next => exact .inl (by decide)
    next =>
      split
      next => exact .inl (by decide)
      next => exact .inr ⟨other, rfl⟩

theorem hasOnlyEntities_escapeChar (c : Char) : HasOnlyEntities (escapeChar c) := by
  intro rest suffix
  rcases escapeChar_mem c with entity | ⟨other, plain⟩
  · -- the only ampersand of an entity is its first character
    have lone : ∀ entity ∈ entities, ∃ letters, entity = '&' :: letters ∧ '&' ∉ letters := by
      simp [entities]
    obtain ⟨letters, written, others⟩ := lone _ entity
    rw [written] at suffix entity
    rcases List.suffix_cons_iff.1 suffix with whole | later
    · rw [whole]
      exact ⟨_, entity, List.prefix_refl _⟩
    · exact absurd (later.subset List.mem_cons_self) others
  · rw [plain, List.suffix_cons_iff, List.suffix_nil] at suffix
    rcases suffix with same | none
    · exact absurd (List.cons.inj same).1.symm other
    · cases none

/-- Every ampersand of an escaped text begins an entity. -/
theorem hasOnlyEntities_escape (s : String) : HasOnlyEntities (escape s).toList := by
  rw [toList_escape]
  induction s.toList with
  | nil =>
    intro rest suffix
    cases List.suffix_nil.1 suffix
  | cons c rest ih =>
    rw [List.flatMap_cons]
    exact (hasOnlyEntities_escapeChar c).append ih

/-! ## One character after another -/

/-- The text with one character written in another way. -/
def rewritten (c : Char) (written : String) (s : String) : String :=
  String.ofList (s.toList.flatMap fun d => if d = c then written.toList else [d])

/-- The special characters can be written as entities one after the other. The ampersand has to be the
first of them, as the entities of the others have ampersands too. -/
theorem escape_eq_rewritten (s : String) :
    escape s = rewritten '>' "&gt;" (rewritten '<' "&lt;" (rewritten '&' "&amp;" s)) := by
  simp only [escape, rewritten, String.toList_ofList, List.flatMap_assoc]
  congr 2
  funext c
  unfold escapeChar
  split
  next => rfl
  next =>
    split
    next opening =>
      rw [opening]
      rfl
    next notOpening =>
      split
      next closing =>
        rw [closing]
        rfl
      next notClosing => simp [notOpening, notClosing]

/-- A text is escaped part by part. -/
theorem escape_append (s t : String) : escape (s ++ t) = escape s ++ escape t := by
  simp only [escape, String.toList_append, List.flatMap_append, String.ofList_append]

/-- Escaping loses nothing and leaves nothing special: an escaped text has no angle brackets, its
ampersands begin entities, and decoding these from left to right, each of them once, gives the text
back. So no two texts are escaped alike. It makes no difference whether a text is escaped as a whole or
in parts, and whether all special characters are written as entities at once, or the ampersand first,
then the opening and then the closing bracket. -/
theorem escape_is_lossless :
    (∀ s, IsPlain (escape s).toList ∧ HasOnlyEntities (escape s).toList ∧ unescape (escape s) = s) ∧
      Function.Injective escape ∧ (∀ s t, escape (s ++ t) = escape s ++ escape t) ∧
      ∀ s, escape s = rewritten '>' "&gt;" (rewritten '<' "&lt;" (rewritten '&' "&amp;" s)) := by
  refine ⟨?_, ?_, escape_append, escape_eq_rewritten⟩
  · intro s
    exact ⟨isPlain_escape s, hasOnlyEntities_escape s, unescape_escape s⟩
  · intro s t same
    rw [← unescape_escape s, same, unescape_escape]

example : escape "a &amp <b>" = "a &amp;amp &lt;b&gt;" := by decide +kernel

end FlagAlerts.Message
