import FlagAlerts.Proofs.Consumer.Settlement
import FlagAlerts.Store.World

/-!
# Every message is settled once

A run that has finished has no message any more, so all that it pulled is settled. The settlements of
all runs together are of messages that were pulled, with no more than one for each.
-/

namespace FlagAlerts.Consumer

open Intake Ledger

variable {limits : Limits} {queue : BusQueue} {handler : Handler} {window i : Nat} {l : Ledger}
  {c : Consumer} {run : ConsumerRun}

/-- A run that has finished has no messages any more. -/
theorem RunKept.content_of_finished {s : Intake} (kept : RunKept l s i run)
    (finished : run.phase = .finished) : (run.phase.inHand : Multiset BusMessage) + s.content i = 0 := by
  have channel := (kept.shut (.inr finished)).buffered
  have workers := carried_of_deserted (kept.deserted finished)
  simp [finished, ConsumerPhase.inHand, content, channel, workers]

/-- A run settles only what it pulled. -/
theorem Balanced.settled_le {pulled : List BusMessage} {handled : List (BusMessage × HandleCode)}
    {settled : List Settlement} {pending : Multiset BusMessage}
    (h : Balanced pulled handled settled pending) :
    ((settled.map (·.id) : List String) : Multiset String) ≤ pulled.map (·.id) := by
  obtain ⟨returned, messages, settlements⟩ := h
  have ids := congrArg (Multiset.map (·.id)) settlements
  have named := congrArg (Multiset.map (·.id)) messages
  simp only [Multiset.map_coe, Multiset.map_add, List.map_map] at ids named
  rw [ids, named]
  exact Multiset.le_add_right _ _

/-- On every course the settlements are of messages that were pulled, and there is no more than one
for each. -/
theorem Kept.settled_le {queued : List BusMessage} (kept : Kept queued l c) :
    ((l.settled.map (·.2.id) : List String) : Multiset String) ≤ l.pulled.map (·.2.id) := by
  apply map_entries_le (f := Settlement.id) (g := BusMessage.id)
  intro r
  rcases Nat.lt_or_ge r c.runs.length with old | new
  · exact (kept.each r _ (List.getElem?_eq_getElem old)).balanced.settled_le
  · obtain ⟨pulled, -, -, settled⟩ := kept.blank r new
    rw [pulled, settled]
    exact le_refl _

/-- The sum of all counts goes up by one with every message. -/
theorem total_foldl_add (codes : List HandleCode) (summary : RunSummary) :
    (codes.foldl RunSummary.add summary).total = summary.total + codes.length := by
  induction codes generalizing summary with
  | nil => rfl
  | cons code rest ih =>
    rw [List.foldl_cons, ih, List.length_cons]
    have one : (summary.add code).total = summary.total + 1 := by
      cases code <;> simp only [RunSummary.add, RunSummary.total] <;> omega
    omega

/-- What has become of the messages of a run: those that it began to handle were handled and settled
by the result, the others that it pulled were returned, and nothing else was settled. -/
structure Accounted (l : Ledger) (i : Nat) (run : ConsumerRun) (returned : List BusMessage) :
    Prop where
  pulled : (ofRun i l.pulled).Perm ((ofRun i l.handled).map (·.1) ++ returned)
  settled : (ofRun i l.settled).Perm
    ((ofRun i l.handled).map settlementOf ++ returned.map (·.handedBack))
  begun : ofRun i l.begun = (ofRun i l.handled).map (·.1)
  total : run.summary.total = (ofRun i l.handled).length

/-- When a run has finished, every message that it pulled has been settled once, by the result if it
was handled and handed back otherwise. The messages that came into the queue are those that were
pulled and those still in it; all settlements are in the ledger, and no message of its own name is
settled twice. -/
theorem finished_run_settles_each_message_once
    (course : Course (idle limits queue handler window) l c) (hrun : c.runs[i]? = some run)
    (finished : run.phase = .finished) :
    (∃ returned, Accounted l i run returned) ∧
      queue.messages ++ l.arrived = l.pulled.map (·.2) ++ c.intake.queue.messages ∧
      c.intake.settlements = l.settled.map (·.2) ∧
      (((queue.messages ++ l.arrived).map (·.id)).Nodup →
        (c.intake.settlements.map (·.id)).Nodup) := by
  have kept := course.kept
  have own := kept.each i run hrun
  refine ⟨?_, kept.queue, kept.settlements, fun distinct => ?_⟩
  · obtain ⟨returned, messages, settlements⟩ := own.balanced
    rw [own.content_of_finished finished, add_zero, Multiset.coe_add] at messages
    rw [Multiset.coe_add] at settlements
    exact ⟨returned, {
      pulled := Multiset.coe_eq_coe.1 messages
      settled := Multiset.coe_eq_coe.1 settlements
      begun := by simpa [finished, ConsumerPhase.inHand] using own.begun (by simp [finished])
      total := by
        rw [own.summary, total_foldl_add, List.length_map]
        exact Nat.zero_add _ }⟩
  · rw [kept.queue, List.map_append, List.map_map] at distinct
    have pulled : (l.pulled.map (·.2.id)).Nodup := (List.nodup_append.1 distinct).1
    rw [kept.settlements, List.map_map]
    exact Multiset.coe_nodup.1 (Multiset.nodup_of_le kept.settled_le (Multiset.coe_nodup.2 pulled))

/-- A message that tells a change across all environments. -/
def announcement (id : String) : BusMessage where
  id := id
  attributes := [(Handler.idAttribute, id)]
  data := String.toUTF8
    ("\x7b\"id\":\"\",\"entity_type\":\"TAG\",\"entity_id\":\"\",\"type\":\"\"," ++
      "\"editor\":\x7b\"email\":\"\"\x7d,\"is_admin_event\":true\x7d") |>.toList

/-- A consumer with one worker and two messages that cannot be used. -/
def sample : Consumer :=
  idle ⟨1, 1, 1, 0⟩
    { messages := [⟨"first", [], []⟩, ⟨"second", [], []⟩], staysOpen := true }
    { platform := World.platform {}, sender := fun _ => pure (.ok ()), timeout := 1000, newId := "" }
    1000

/-- A run that handles a message and is cancelled while its worker has the next one. -/
def sampleMoves : List Move :=
  [.act .start, .act (.work 0), .act (.work 0), .act (.work 0), .act (.work 0), .act (.work 0),
    .act (.poll 0), .act (.poll 0), .act (.work 0), .act (.work 0), .act (.cancel 0),
    .act (.poll 0), .act (.work 0), .act (.poll 0)]

/-- One message is acknowledged and one handed back. -/
theorem cancelled_run_settles_each_message_once :
    ∃ l c run, Course sample l c ∧ c.runs[0]? = some run ∧ run.phase = .finished ∧
      c.intake.settlements = [⟨"first", true⟩, ⟨"second", false⟩] ∧
      (∃ returned, Accounted l 0 run returned) := by
  have outcome : (follow? {} sample sampleMoves).map (fun x =>
      (x.2.runs[0]?.map (·.phase), x.2.intake.settlements)) =
        some (some .finished, [⟨"first", true⟩, ⟨"second", false⟩]) := by decide +kernel
  obtain ⟨⟨l, c⟩, followed, same⟩ := Option.map_eq_some_iff.1 outcome
  obtain ⟨phase, settlements⟩ := Prod.mk.inj same
  obtain ⟨run, hrun, finished⟩ := Option.map_eq_some_iff.1 phase
  have course : Course sample l c := Course.initial.follow followed
  obtain ⟨accounted, -⟩ := finished_run_settles_each_message_once course hrun finished
  exact ⟨l, c, run, course, hrun, finished, settlements, accounted⟩

end FlagAlerts.Consumer
