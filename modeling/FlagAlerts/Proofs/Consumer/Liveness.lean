import FlagAlerts.Proofs.Consumer.Holding
import FlagAlerts.Proofs.Consumer.Outcome
import FlagAlerts.Proofs.Intake.Progress

/-!
# A message never waits for good

A message on its way from the queue to its settlement waits for byte permits, for its turn, for room
in the channel, for a receiver, and for its handler, and keeps what it got so far. No two of these
waits are for each other: as long as a message is not settled, there is a step with which some
message goes on. Of those past the gate for bytes that is shown without a look at the gate; and if
there are none, all byte permits are free, which is enough for any message.
-/

namespace FlagAlerts

namespace Intake

section Lines

variable {s : Intake} {w : Worker}

/-- A worker has its turn, or is the first in the line for turns while nobody has one. -/
inductive HasTurn (s : Intake) (m : BusMessage) : Phase → Prop where
  | resting : HasTurn s m (.resting m)
  | first {place : Option Nat} (free : s.workers.all (!·.phase.isResting) = true)
      (next : isNext (s.line Phase.pacingPlace?) place = true) : HasTurn s m (.pacing m place)

/-- A turn does not pass with time. -/
theorem HasTurn.later {m : BusMessage} {phase : Phase} (turn : HasTurn s m phase) (now : Nat) :
    HasTurn { s with now := now } m phase := by
  cases turn with
  | resting => exact .resting
  | first free next => exact .first free next

end Lines

section Channels

variable {s : Intake} {r : Nat}

theorem channel_sweep_le (s : Intake) (r : Nat) :
    ((s.sweep r).channel r).length ≤ (s.channel r).length := by
  unfold sweep
  split
  next own hown =>
    split
    · have runs := (handBack_frame s own.channel).2.2
      simp [channel, setRun, runs, hown]
    · exact Nat.le_refl _
  next => exact Nat.le_refl _

theorem channel_abandon_le (s : Intake) (r : Nat) :
    ((s.abandon r).channel r).length ≤ (s.channel r).length := by
  refine Nat.le_trans (channel_sweep_le _ r) ?_
  cases hown : s.runs[r]? <;> simp [channel, setRun, hown]

end Channels

end Intake

namespace Consumer

open Intake

section Steps

variable {queued : List BusMessage} {l : Ledger} {c : Consumer} {i : Nat} {run : ConsumerRun}
  {w : Worker} {own : IntakeRun} {m : BusMessage}

/-- Every worker belongs to a run of the intake. -/
theorem Kept.exists_run (kept : Kept queued l c) (member : w ∈ c.intake.workers) :
    ∃ own, c.intake.runs[w.run]? = some own :=
  ⟨_, List.getElem?_eq_getElem (kept.runs.symm ▸ kept.workers w member)⟩

/-- A run can be cut off while it handles a message, and its channel has no more messages then. -/
theorem exists_cutOff {start finish : Nat} (phase : run.phase = .handling m start finish)
    (held : m.id ∈ c.intake.heldNames) (done : List (Nat × Effect)) :
    ∃ d, c.cutOff? i run done = some d ∧
      (d.intake.channel run.run).length ≤ (c.intake.channel run.run).length := by
  obtain ⟨t, settled⟩ := settleHeld_of_mem false held
  have same : t.channel run.run = c.intake.channel run.run := by
    simp [Intake.channel, (settleHeld_frame settled).2.1]
  refine ⟨{ c.setRun i { run with phase := .aborted, effects := run.effects ++ done } with
    intake := t.abandon run.run }, by simp [cutOff?, phase, settled], ?_⟩
  rw [← same]
  exact channel_abandon_le t run.run

end Steps

end Consumer

end FlagAlerts
