import FlagAlerts.Proofs.Consumer.Handling
import FlagAlerts.Proofs.Delivery.Tally

/-!
# The sends of a message

Handling a message looks up an environment and hands one event on. Both have the time that the
message has in all, so the send may reach the instants up to the deadline of the message.
-/

namespace FlagAlerts.Sender

section Messages

variable {p : Platform} {notifiers : List Notifier} {timeout : Nat} {newId : String}
  {mayReach mayGo : Nat → Bool}

/-- An event that is handed on with what is left of the time may use as much as the whole has. -/
theorem orderly_handOn (change : DomainEvent) (environment : Option Environment) {timeLeft now : Nat}
    (limit : ∀ instant, mayReach instant = (mayGo instant && decide (instant ≤ now + timeLeft))) :
    (overNotifiers p notifiers).Orderly mayReach
      (((Handler.through p notifiers timeout newId).handOn change environment timeLeft).actsWhile
        mayGo now) := by
  unfold Handler.handOn
  split
  next => exact orderly_pure _ _
  next sourceType _ =>
    refine orderly_bind ?_ ?_
    · rw [Timed.actsWhile_within, ← funext limit]
      exact orderly_submit p notifiers _ mayReach now
    · split <;> exact orderly_pure _ _

theorem orderly_tellChange (change : DomainEvent) {now : Nat}
    (limit : ∀ instant, mayReach instant = (mayGo instant && decide (instant ≤ now + timeout))) :
    (overNotifiers p notifiers).Orderly mayReach
      (((Handler.through p notifiers timeout newId).tellChange change).actsWhile mayGo now) := by
  unfold Handler.tellChange
  split
  next => exact orderly_handOn change none limit
  next =>
    refine orderly_bind (orderly_of_acts ?_ now) ?_
    · intro e he
      obtain ⟨name, rfl | rfl⟩ := Handler.isLookup_lookUp_within _ _ _ e he <;> rfl
    · split
      next environment found =>
        obtain ⟨same, within⟩ := Timed.duration_of_within_eq_some found
        refine orderly_handOn change (some environment) fun instant => ?_
        have whole := Nat.add_sub_of_le within
        rw [limit, same, Nat.add_assoc, whole]
        rfl
      next => exact orderly_pure _ _
      next => exact orderly_pure _ _

/-- Handling a message is orderly. -/
theorem orderly_handle (m : BusMessage) {now : Nat}
    (limit : ∀ instant, mayReach instant = (mayGo instant && decide (instant ≤ now + timeout))) :
    (overNotifiers p notifiers).Orderly mayReach
      (((Handler.through p notifiers timeout newId).handle m).actsWhile mayGo now) := by
  refine orderly_bind (orderly_of_acts (by simp [Handler.takenOn, Effect.tellsSend]) now) ?_
  refine orderly_bind ?_ (orderly_of_acts (by simp [Effect.tellsSend]) _)
  unfold Handler.process
  split
  next => exact orderly_pure _ _
  next =>
    split
    next change _ => exact orderly_tellChange change limit
    next => exact orderly_pure _ _

end Messages

end FlagAlerts.Sender
