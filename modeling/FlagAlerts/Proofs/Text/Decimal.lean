import FlagAlerts.Text.Decimal
import Mathlib.Data.Char
import Mathlib.Data.List.Induction
import Mathlib.Tactic.IntervalCases

/-!
# Reading back decimal numerals

Digits stand for the number that they were written for, with zeros before them or without. Numerals of
one length are in the order of their numbers.
-/

namespace FlagAlerts.Text

variable {d : Nat}

theorem digitValue_digitChar (h : d < 10) : digitValue (digitChar d) = d := by
  interval_cases d <;> rfl

theorem isDigit_digitChar (h : d < 10) : (digitChar d).isDigit = true := by
  interval_cases d <;> rfl

theorem ofDigits_append_singleton (cs : List Char) (c : Char) :
    ofDigits (cs ++ [c]) = 10 * ofDigits cs + digitValue c := by
  rw [ofDigits, List.foldl_append]
  rfl

/-- Digits stand for the number that they were written for. -/
theorem ofDigits_digits (n : Nat) : ofDigits (digits n) = n := by
  induction n using digits.induct with
  | case1 n small =>
    rw [digits, if_pos small, ofDigits, List.foldl_cons, List.foldl_nil, digitValue_digitChar small]
    omega
  | case2 n large ih =>
    have last : n % 10 < 10 := Nat.mod_lt n (by omega)
    rw [digits, if_neg large, ofDigits_append_singleton, ih, digitValue_digitChar last]
    omega

theorem isDigit_of_mem_digits (n : Nat) : ∀ c ∈ digits n, c.isDigit = true := by
  induction n using digits.induct with
  | case1 n small =>
    rw [digits, if_pos small]
    intro c hc
    rw [List.mem_singleton.1 hc]
    exact isDigit_digitChar small
  | case2 n large ih =>
    rw [digits, if_neg large]
    intro c hc
    rcases List.mem_append.1 hc with first | last
    · exact ih c first
    · rw [List.mem_singleton.1 last]
      exact isDigit_digitChar (Nat.mod_lt n (by omega))

theorem digits_ne_nil (n : Nat) : digits n ≠ [] := by
  rw [digits]
  split <;> simp

/-- A numeral is read back as the number if that is not above the limit. -/
theorem readNat?_digits {limit n : Nat} (h : n ≤ limit) : readNat? limit (digits n) = some n := by
  have all : (digits n).all Char.isDigit = true := List.all_eq_true.2 (isDigit_of_mem_digits n)
  have read : readDigits? (digits n) = some n := by
    simp [readDigits?, digits_ne_nil, all, ofDigits_digits]
  cases start : digits n with
  | nil => exact absurd start (digits_ne_nil n)
  | cons c rest =>
    have digit : c.isDigit = true := isDigit_of_mem_digits n c (by rw [start]; exact List.mem_cons_self)
    have unsigned : c ≠ '+' := by
      rintro rfl
      exact absurd digit (by decide)
    rw [start] at read
    unfold readNat?
    split
    next same => cases same; exact absurd rfl unsigned
    next => simp [read, h]

theorem isEmpty_decimal (n : Nat) : (decimal n).isEmpty = false := by
  rw [Bool.eq_false_iff, ne_eq, String.isEmpty_iff, decimal]
  intro h
  have none := congrArg String.toList h
  rw [String.toList_ofList] at none
  exact digits_ne_nil n none

@[simp] theorem toList_decimal (n : Nat) : (decimal n).toList = digits n := String.toList_ofList

/-! ## Numerals with zeros before them -/

theorem ofDigits_append (a b : List Char) :
    ofDigits (a ++ b) = 10 ^ b.length * ofDigits a + ofDigits b := by
  induction b using List.reverseRecOn with
  | nil => simp [ofDigits]
  | append_singleton b c ih =>
    rw [← List.append_assoc, ofDigits_append_singleton, ofDigits_append_singleton, ih,
      List.length_append, List.length_singleton, Nat.pow_succ', Nat.mul_assoc]
    omega

/-- Zeros before digits change nothing. -/
theorem ofDigits_paddedDigits (width n : Nat) : ofDigits (paddedDigits width n) = n := by
  have zeros (k : Nat) : ofDigits (List.replicate k '0') = 0 := by
    induction k with
    | zero => rfl
    | succ k ih =>
      rw [List.replicate_succ', ofDigits_append_singleton, ih]
      rfl
  rw [paddedDigits, ofDigits_append, zeros, ofDigits_digits, Nat.mul_zero, Nat.zero_add]

theorem isDigit_of_mem_paddedDigits {width n : Nat} : ∀ c ∈ paddedDigits width n, c.isDigit = true := by
  intro c member
  rcases List.mem_append.1 member with zero | digit
  · rw [(List.mem_replicate.1 zero).2]
    rfl
  · exact isDigit_of_mem_digits n c digit

/-- A number below a power of ten has no more digits than that. -/
theorem length_digits_le {width n : Nat} (positive : 0 < width) (small : n < 10 ^ width) :
    (digits n).length ≤ width := by
  induction n using digits.induct generalizing width with
  | case1 n single =>
    rw [digits, if_pos single]
    exact positive
  | case2 n large ih =>
    obtain ⟨k, rfl⟩ := Nat.exists_eq_succ_of_ne_zero (Nat.ne_of_gt positive)
    rw [Nat.pow_succ'] at small
    have several : 0 < k := by
      refine Nat.pos_of_ne_zero fun none => ?_
      rw [none, Nat.pow_zero] at small
      omega
    rw [digits, if_neg large, List.length_append, List.length_singleton]
    exact Nat.succ_le_succ (ih several (by omega))

theorem length_paddedDigits {width n : Nat} (positive : 0 < width) (small : n < 10 ^ width) :
    (paddedDigits width n).length = width := by
  have fits := length_digits_le positive small
  rw [paddedDigits, List.length_append, List.length_replicate]
  omega

/-! ## The order of numerals -/

theorem digitValue_le {c : Char} (digit : c.isDigit = true) : digitValue c ≤ 9 := by
  simp only [Char.isDigit, ge_iff_le, Bool.and_eq_true, decide_eq_true_eq, UInt32.le_iff_toNat_le]
    at digit
  exact Nat.sub_le_of_le_add digit.2

/-- Digits are in the order of their values. -/
theorem lt_iff_digitValue_lt {c d : Char} (hc : c.isDigit = true) (hd : d.isDigit = true) :
    c < d ↔ digitValue c < digitValue d := by
  simp only [Char.isDigit, ge_iff_le, Bool.and_eq_true, decide_eq_true_eq, UInt32.le_iff_toNat_le]
    at hc hd
  have least : (0x30 : Nat) ≤ c.toNat := hc.1
  have least' : (0x30 : Nat) ≤ d.toNat := hd.1
  rw [Char.lt_def, UInt32.lt_iff_toNat_lt, digitValue, digitValue]
  show c.toNat < d.toNat ↔ _
  omega

theorem ofDigits_cons (c : Char) (cs : List Char) :
    ofDigits (c :: cs) = 10 ^ cs.length * digitValue c + ofDigits cs := by
  have first : ofDigits [c] = digitValue c := by simp [ofDigits]
  rw [← first, ← ofDigits_append, List.singleton_append]

theorem ofDigits_lt {cs : List Char} (digits : ∀ c ∈ cs, c.isDigit = true) :
    ofDigits cs < 10 ^ cs.length := by
  induction cs with
  | nil => exact Nat.one_pos
  | cons c cs ih =>
    obtain ⟨first, others⟩ := List.forall_mem_cons.1 digits
    have rest := ih others
    have most := Nat.mul_le_mul_left (10 ^ cs.length) (digitValue_le first)
    rw [ofDigits_cons, List.length_cons, Nat.pow_succ]
    omega

/-- Numerals of one length are in lexicographic order just as their numbers are. -/
theorem lt_iff_ofDigits_lt {cs ds : List Char} (same : cs.length = ds.length)
    (hcs : ∀ c ∈ cs, c.isDigit = true) (hds : ∀ d ∈ ds, d.isDigit = true) :
    cs < ds ↔ ofDigits cs < ofDigits ds := by
  induction cs generalizing ds with
  | nil =>
    rw [List.eq_nil_of_length_eq_zero same.symm]
    simp
  | cons c cs ih =>
    obtain ⟨d, ds, rfl⟩ := List.exists_cons_of_length_eq_add_one same.symm
    obtain ⟨hc, hcs⟩ := List.forall_mem_cons.1 hcs
    obtain ⟨hd, hds⟩ := List.forall_mem_cons.1 hds
    have rest : cs.length = ds.length := Nat.succ.inj same
    have small := ofDigits_lt hcs
    have small' := ofDigits_lt hds
    rw [List.cons_lt_cons_iff, ih rest hcs hds, ofDigits_cons, ofDigits_cons, rest]
    rw [rest] at small
    rcases lt_trichotomy c d with less | rfl | greater
    · have first := Nat.mul_le_mul_left (10 ^ ds.length) ((lt_iff_digitValue_lt hc hd).1 less)
      rw [Nat.mul_succ] at first
      exact iff_of_true (.inl less) (by omega)
    · simp
    · have first := Nat.mul_le_mul_left (10 ^ ds.length) ((lt_iff_digitValue_lt hd hc).1 greater)
      rw [Nat.mul_succ] at first
      refine iff_of_false ?_ (by omega)
      rintro (less | ⟨rfl, -⟩)
      · exact lt_asymm less greater
      · exact lt_irrefl c greater

end FlagAlerts.Text
