import FlagAlerts.Proofs.Consumer.Course
import FlagAlerts.Proofs.Intake.Content

/-!
# The entries of a run and their balance

A move has entries in the ledger for one run at most. The entries of a run balance if what it pulled
was handled, or handed back, or is pending, and if it settled nothing but what it handled or handed
back.
-/

namespace FlagAlerts

namespace Consumer

open Intake

/-! ## The entries of a run -/

namespace Ledger

section Entries

variable {α : Type} {r : Nat}

@[simp] theorem append_def (a b : Ledger) : a ++ b =
    ⟨a.arrived ++ b.arrived, a.pulled ++ b.pulled, a.begun ++ b.begun, a.handled ++ b.handled,
      a.settled ++ b.settled⟩ := rfl

@[simp] theorem ofRun_append (a b : List (Nat × α)) :
    ofRun r (a ++ b) = ofRun r a ++ ofRun r b := by
  simp [ofRun]

@[simp] theorem ofRun_nil : ofRun r ([] : List (Nat × α)) = [] := rfl

@[simp] theorem ofRun_own (xs : List α) : ofRun r (xs.map (r, ·)) = xs := by
  induction xs with
  | nil => rfl
  | cons x rest ih =>
    rw [ofRun] at ih ⊢
    simpa using ih

@[simp] theorem ofRun_singleton (x : α) : ofRun r [(r, x)] = [x] := ofRun_own [x]

theorem ofRun_other {r' : Nat} (h : r' ≠ r) (xs : List α) : ofRun r (xs.map (r', ·)) = [] := by
  simp [ofRun, List.filter_eq_nil_iff, h]

end Entries

/-- A run has no entries. -/
def IsBlank (l : Ledger) (i : Nat) : Prop :=
  ofRun i l.pulled = [] ∧ ofRun i l.begun = [] ∧ ofRun i l.handled = [] ∧ ofRun i l.settled = []

theorem IsBlank.append {a b : Ledger} {i : Nat} (ha : a.IsBlank i) (hb : b.IsBlank i) :
    (a ++ b).IsBlank i := by
  obtain ⟨a1, a2, a3, a4⟩ := ha
  obtain ⟨b1, b2, b3, b4⟩ := hb
  exact ⟨by simp [a1, b1], by simp [a2, b2], by simp [a3, b3], by simp [a4, b4]⟩

end Ledger

open Ledger

/-- How often something stands among the entries of all runs, with the run. -/
theorem count_map_entries {α β : Type} [DecidableEq β] (entries : List (Nat × α)) (name : α → β)
    (r : Nat) (x : β) :
    Multiset.count (r, x) (entries.map fun e => (e.1, name e.2) : List (Nat × β)) =
      Multiset.count x ((ofRun r entries).map name : List β) := by
  induction entries with
  | nil => rfl
  | cons e rest ih =>
    obtain ⟨own, a⟩ := e
    by_cases same : own = r
    · subst same
      have head : ofRun own ((own, a) :: rest) = a :: ofRun own rest := by simp [ofRun]
      simp only [head, List.map_cons, ← Multiset.cons_coe, Multiset.count_cons, ih,
        Prod.mk.injEq, true_and]
    · have head : ofRun r ((own, a) :: rest) = ofRun r rest := by simp [ofRun, same]
      simp only [head, List.map_cons, ← Multiset.cons_coe, Multiset.count_cons, ih,
        Prod.mk.injEq, Ne.symm same, false_and, if_false, add_zero]

/-- What holds of the entries of every run holds of all entries together. -/
theorem map_entries_le {α β γ : Type} [DecidableEq γ] {few : List (Nat × α)}
    {many : List (Nat × β)} {f : α → γ} {g : β → γ}
    (h : ∀ r, ((ofRun r few).map f : Multiset γ) ≤ ((ofRun r many).map g : List γ)) :
    ((few.map fun e => f e.2 : List γ) : Multiset γ) ≤ (many.map fun e => g e.2 : List γ) := by
  have pairs : ((few.map fun e => (e.1, f e.2) : List (Nat × γ)) : Multiset (Nat × γ)) ≤
      (many.map fun e => (e.1, g e.2) : List (Nat × γ)) := by
    refine Multiset.le_iff_count.2 fun ⟨r, x⟩ => ?_
    rw [count_map_entries few f, count_map_entries many g]
    exact Multiset.le_iff_count.1 (h r) x
  have seconds := Multiset.map_le_map (f := Prod.snd) pairs
  simpa only [Multiset.map_coe, List.map_map, Function.comp_def] using seconds

/-- A move has entries only for the run that it belongs to. -/
theorem entry_isBlank {c d : Consumer} {mv : Move} {i : Nat} (h : c.owner? mv ≠ some i) :
    (c.entry mv d).IsBlank i := by
  have own {α : Type} (xs : List α) :
      ofRun i ((c.owner? mv).toList.flatMap fun r => xs.map (r, ·)) = [] := by
    cases owner : c.owner? mv with
    | none => simp
    | some r => simpa using ofRun_other (by rintro rfl; exact h owner) xs
  refine ⟨own _, ?_, ?_, own _⟩ <;>
  · unfold entry
    split
    next j => exact ofRun_other (by rintro rfl; exact h rfl) _
    next => rfl

/-- The entries for what left the queue and was settled in a move of a run. -/
theorem entry_of_owner {c d : Consumer} {mv : Move} {r : Nat} {p : List BusMessage}
    {x : List Settlement} (owner : c.owner? mv = some r)
    (queue : c.intake.queue.messages = p ++ d.intake.queue.messages)
    (settlements : d.intake.settlements = c.intake.settlements ++ x) :
    (c.entry mv d).arrived = [] ∧ (c.entry mv d).pulled = p.map (r, ·) ∧
      (c.entry mv d).settled = x.map (r, ·) := by
  refine ⟨?_, ?_, ?_⟩
  · simp [entry, queue]
  · simp [entry, owner, queue]
  · simp [entry, owner, settlements]

/-! ## The balance of a run -/

/-- The settlement of a message that was handled. -/
def settlementOf (x : BusMessage × HandleCode) : Settlement := ⟨x.1.id, x.2.shouldAck⟩

/-- What was pulled was handled, or handed back, or is pending; and there is one settlement for each
message that was handled, by the result, and for each that was handed back. -/
def Balanced (pulled : List BusMessage) (handled : List (BusMessage × HandleCode))
    (settled : List Settlement) (pending : Multiset BusMessage) : Prop :=
  ∃ returned : List BusMessage,
    (pulled : Multiset BusMessage) = handled.map (·.1) + returned + pending ∧
      (settled : Multiset Settlement) = handled.map settlementOf + returned.map (·.handedBack)

section Balance

variable {pulled : List BusMessage} {handled : List (BusMessage × HandleCode)}
  {settled : List Settlement} {pending pending' : Multiset BusMessage}

/-- More was pulled, and some was handed back. -/
theorem Balanced.flow (h : Balanced pulled handled settled pending) {p b : List BusMessage}
    (balance : (p : Multiset BusMessage) + pending = b + pending') :
    Balanced (pulled ++ p) handled (settled ++ b.map (·.handedBack)) pending' := by
  obtain ⟨returned, messages, settlements⟩ := h
  refine ⟨returned ++ b, ?_, ?_⟩
  · calc ((pulled ++ p : List BusMessage) : Multiset BusMessage)
        = handled.map (·.1) + returned + (p + pending) := by
          rw [← Multiset.coe_add, messages]; abel
      _ = handled.map (·.1) + (returned ++ b : List BusMessage) + pending' := by
          rw [balance, ← Multiset.coe_add]; abel
  · rw [← Multiset.coe_add, settlements, List.map_append, ← Multiset.coe_add]
    abel

/-- One more message was handled. -/
theorem Balanced.handle (h : Balanced pulled handled settled pending) {x : BusMessage × HandleCode}
    (balance : pending = {x.1} + pending') :
    Balanced pulled (handled ++ [x]) (settled ++ [settlementOf x]) pending' := by
  obtain ⟨returned, messages, settlements⟩ := h
  refine ⟨returned, ?_, ?_⟩
  · rw [messages, balance, List.map_append, ← Multiset.coe_add, List.map_singleton,
      Multiset.coe_singleton]
    abel
  · rw [← Multiset.coe_add, settlements, List.map_append, ← Multiset.coe_add, List.map_singleton,
      Multiset.coe_singleton]
    abel

end Balance

end Consumer

end FlagAlerts
