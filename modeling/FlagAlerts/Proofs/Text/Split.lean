import FlagAlerts.Text.Blank
import FlagAlerts.Text.Split

/-!
# Pieces of texts

A text that is split at a character is the pieces with the character between them, and no piece has
the character. A text is cut before and behind the first occurrence. The words of a text are neither
empty nor do they have blanks.
-/

namespace FlagAlerts.Text

variable {c : Char} {a b cs : List Char}

theorem splitOn_ne_nil (c : Char) (cs : List Char) : splitOn c cs ≠ [] := by
  cases cs with
  | nil => simp [splitOn]
  | cons d rest =>
    rw [splitOn]
    split
    · simp
    · split <;> simp

/-- A text without the character is one piece. -/
theorem splitOn_of_not_mem (whole : c ∉ cs) : splitOn c cs = [cs] := by
  induction cs with
  | nil => rfl
  | cons d rest ih =>
    have other : d ≠ c := fun same => whole (same ▸ List.mem_cons_self)
    rw [splitOn, ih fun h => whole (List.mem_cons_of_mem d h)]
    simp only [if_neg other]

/-- A piece ends where the character is. -/
theorem splitOn_append (whole : c ∉ a) : splitOn c (a ++ c :: b) = a :: splitOn c b := by
  induction a with
  | nil =>
    rw [List.nil_append, splitOn]
    split
    next none => exact absurd none (splitOn_ne_nil c b)
    next piece pieces same => rw [if_pos rfl, same]
  | cons d rest ih =>
    have other : d ≠ c := fun same => whole (same ▸ List.mem_cons_self)
    rw [List.cons_append, splitOn, ih fun h => whole (List.mem_cons_of_mem d h)]
    simp only [if_neg other]

/-- A text is cut at the first occurrence of the character. -/
theorem cut?_append (whole : c ∉ a) : cut? c (a ++ c :: b) = some (a, b) := by
  induction a with
  | nil => rw [List.nil_append, cut?, if_pos rfl]
  | cons d rest ih =>
    have other : d ≠ c := fun same => whole (same ▸ List.mem_cons_self)
    rw [List.cons_append, cut?, if_neg other, ih fun h => whole (List.mem_cons_of_mem d h)]
    rfl

/-- A text without the character is not cut. -/
theorem cut?_of_not_mem (whole : c ∉ cs) : cut? c cs = none := by
  induction cs with
  | nil => rfl
  | cons d rest ih =>
    have other : d ≠ c := fun same => whole (same ▸ List.mem_cons_self)
    rw [cut?, if_neg other, ih fun h => whole (List.mem_cons_of_mem d h)]
    rfl

/-- A text that is cut has the character between the two parts. -/
theorem eq_of_cut? (h : cut? c cs = some (a, b)) : cs = a ++ c :: b := by
  induction cs generalizing a with
  | nil => cases h
  | cons d rest ih =>
    rw [cut?] at h
    split at h
    next same =>
      cases h
      rw [same]
      rfl
    next =>
      obtain ⟨⟨first, last⟩, cutRest, same⟩ := Option.map_eq_some_iff.1 h
      cases same
      rw [ih cutRest]
      rfl

/-- What stands before the cut does not have the character. -/
theorem not_mem_of_cut?_eq_some (h : cut? c cs = some (a, b)) : c ∉ a := by
  induction cs generalizing a with
  | nil => cases h
  | cons d rest ih =>
    rw [cut?] at h
    split at h
    next =>
      cases h
      exact List.not_mem_nil
    next other =>
      obtain ⟨⟨first, last⟩, cutRest, same⟩ := Option.map_eq_some_iff.1 h
      cases same
      intro member
      rcases List.mem_cons.1 member with same | inside
      · exact other same.symm
      · exact ih cutRest inside

/-- A text that is not cut does not have the character. -/
theorem not_mem_of_cut? (h : cut? c cs = none) : c ∉ cs := by
  induction cs with
  | nil => exact List.not_mem_nil
  | cons d rest ih =>
    rw [cut?] at h
    split at h
    next => cases h
    next other =>
      have later := ih (Option.map_eq_none_iff.1 h)
      intro member
      rcases List.mem_cons.1 member with same | inside
      · exact other same.symm
      · exact later inside

/-! ## Words -/

theorem not_isBlank_of_mem_addToWords {ws : List (List Char)}
    (plain : ∀ w ∈ ws, ∀ x ∈ w, isBlank x = false) :
    ∀ w ∈ addToWords c ws, ∀ x ∈ w, isBlank x = false := by
  cases ws with
  | nil =>
    rw [addToWords]
    split
    next => simp
    next other => simpa using other
  | cons first rest =>
    obtain ⟨own, others⟩ := List.forall_mem_cons.1 plain
    rw [addToWords]
    split
    next =>
      refine List.forall_mem_cons.2 ⟨?_, plain⟩
      intro x hx
      cases hx
    next other =>
      refine List.forall_mem_cons.2 ⟨List.forall_mem_cons.2 ⟨?_, own⟩, others⟩
      simpa using other

/-- No word of a text has a blank. -/
theorem not_isBlank_of_mem_words {s w : String} (h : w ∈ words s) :
    ∀ x ∈ w.toList, isBlank x = false := by
  have all (cs : List Char) : ∀ w ∈ cs.foldr addToWords [], ∀ x ∈ w, isBlank x = false := by
    induction cs with
    | nil => simp
    | cons c rest ih => exact not_isBlank_of_mem_addToWords ih
  obtain ⟨chars, member, rfl⟩ := List.mem_map.1 h
  rw [String.toList_ofList]
  exact all s.toList chars (List.mem_filter.1 member).1

/-- No word of a text is empty. -/
theorem ne_nil_of_mem_words {s w : String} (h : w ∈ words s) : w.toList ≠ [] := by
  obtain ⟨chars, member, rfl⟩ := List.mem_map.1 h
  rw [String.toList_ofList]
  simpa using (List.mem_filter.1 member).2

/-! ### Writing words -/

section Writing

variable {rest : List Char}

/-- Characters before a word that are not blank belong to it. -/
theorem foldr_addToWords_append {w : List Char} {ws : List (List Char)}
    (plain : ∀ x ∈ a, isBlank x = false) (later : rest.foldr addToWords [] = w :: ws) :
    (a ++ rest).foldr addToWords [] = (a ++ w) :: ws := by
  induction a with
  | nil => exact later
  | cons x tail ih =>
    obtain ⟨own, others⟩ := List.forall_mem_cons.1 plain
    rw [List.cons_append, List.foldr_cons, ih others, addToWords, own]
    rfl

/-- A word ends at a blank. -/
theorem wordsOfChars_append (plain : ∀ x ∈ a, isBlank x = false) (some : a ≠ []) :
    wordsOfChars (a ++ ' ' :: rest) = a :: wordsOfChars rest := by
  have ends : (' ' :: rest).foldr addToWords [] = [] :: rest.foldr addToWords [] := by
    rw [List.foldr_cons]
    cases rest.foldr addToWords [] <;> rfl
  unfold wordsOfChars
  rw [foldr_addToWords_append plain ends, List.append_nil, List.filter_cons]
  simp [some]

/-- A text without blanks is one word. -/
theorem wordsOfChars_of_plain (plain : ∀ x ∈ a, isBlank x = false) (some : a ≠ []) :
    wordsOfChars a = [a] := by
  have one : a.foldr addToWords [] = [a] := by
    induction a with
    | nil => exact absurd rfl some
    | cons x tail ih =>
      obtain ⟨own, others⟩ := List.forall_mem_cons.1 plain
      cases tail with
      | nil =>
        rw [List.foldr_cons, List.foldr_nil, addToWords, own]
        rfl
      | cons y more =>
        rw [List.foldr_cons, ih others (List.cons_ne_nil y more), addToWords, own]
        rfl
  unfold wordsOfChars
  rw [one, List.filter_cons]
  simp [some]

/-- A text that neither starts nor ends with a blank is not trimmed. -/
theorem trimChars_of_plain (first : ∀ x ∈ cs.head?, isBlank x = false)
    (last : ∀ x ∈ cs.getLast?, isBlank x = false) : trimChars cs = cs := by
  have keeps {l : List Char} (start : ∀ x ∈ l.head?, isBlank x = false) :
      l.dropWhile isBlank = l := by
    cases l with
    | nil => rfl
    | cons x tail => rw [List.dropWhile_cons_of_neg (by simp [start x rfl])]
  unfold trimChars
  rw [keeps first, keeps (by rwa [List.head?_reverse]), List.reverse_reverse]

end Writing

end FlagAlerts.Text
