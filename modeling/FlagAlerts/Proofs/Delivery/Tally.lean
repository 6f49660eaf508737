import FlagAlerts.Proofs.Delivery.Calls

/-!
# What is counted of sends

A send is counted when it begins and again when it ends, but not when it is cut off. So in whatever
is done as long as instants may be reached, what was counted first is what was counted at an end,
and the sends that did not get there.
-/

namespace FlagAlerts

namespace Effect

/-- How often a metric was counted. -/
def times (es : List Effect) (metric : Metric) : Nat := (metrics es).count metric

@[simp] theorem times_append (a b : List Effect) (metric : Metric) :
    times (a ++ b) metric = times a metric + times b metric := by
  simp [times, metrics]

@[simp] theorem times_submitted (event : NotificationEvent) (es : List Effect) (metric : Metric) :
    times (.submitted event :: es) metric = times es metric := rfl

@[simp] theorem times_counted (counted : Metric) (es : List Effect) (metric : Metric) :
    times (.counted counted :: es) metric =
      times es metric + if counted = metric then 1 else 0 := by
  simp [times, metrics, List.count_cons]

/-- Whether an effect tells that a send begins or ends. -/
def tellsSend : Effect → Bool
  | .submitted _ | .counted (.senderReceived _) | .counted (.senderHandled _ _) => true
  | _ => false

/-- Nothing is counted of sends where none begins or ends. -/
theorem times_eq_zero {es : List Effect} (quiet : ∀ e ∈ es, e.tellsSend = false) {metric : Metric}
    (send : (Effect.counted metric).tellsSend = true) : times es metric = 0 := by
  refine List.count_eq_zero.2 fun counted => ?_
  obtain ⟨e, he, same⟩ := List.mem_filterMap.1 counted
  have silent := quiet e he
  cases e <;> simp_all

end Effect

namespace Sender

/-- The events whose sends do not get to their end, among those that were handed on. -/
def cutOff (s : Sender) (mayReach : Nat → Bool) (done : List (Nat × Effect)) :
    List NotificationEvent :=
  done.filterMap fun x =>
    match x.2 with
    | .submitted event => if (s event).lastsWhile mayReach x.1 then none else some event
    | _ => none

/-- No send is in progress: each that was begun has done all that it does before it ends or is cut
off. -/
def IsIdle (s : Sender) (mayReach : Nat → Bool) (done : List (Nat × Effect)) : Prop :=
  ∀ before start event after, done = before ++ (start, .submitted event) :: after →
    (s event).actsWhile mayReach start <+: after

/-- The sends of every kind that began are those that ended, well or not, and those that were cut
off. -/
def AddsUp (s : Sender) (mayReach : Nat → Bool) (done : List (Nat × Effect)) : Prop :=
  ∀ kind, let es := done.map (·.2)
    Effect.times es (.senderReceived kind) =
      Effect.times es (.senderHandled kind .success) + Effect.times es (.senderHandled kind .fail) +
        (s.cutOff mayReach done).countP (·.notification.kind == kind)

/-- What is done adds up whenever no send is in progress, and none is in the end. -/
structure Orderly (s : Sender) (mayReach : Nat → Bool) (done : List (Nat × Effect)) : Prop where
  idle : s.IsIdle mayReach done
  addsUp : ∀ seen, seen <+: done → s.IsIdle mayReach seen → s.AddsUp mayReach seen

section Orderly

variable {s : Sender} {mayReach : Nat → Bool} {a b : List (Nat × Effect)}

theorem cutOff_append (s : Sender) (mayReach : Nat → Bool) (a b : List (Nat × Effect)) :
    s.cutOff mayReach (a ++ b) = s.cutOff mayReach a ++ s.cutOff mayReach b :=
  List.filterMap_append

/-- Where nothing is handed on, no send is cut off. -/
theorem cutOff_eq_nil (none : ∀ x ∈ a, ∀ event, x.2 ≠ .submitted event) :
    s.cutOff mayReach a = [] := by
  refine List.filterMap_eq_nil_iff.2 fun x hx => ?_
  have other := none x hx
  cases effect : x.2 <;> simp_all

theorem AddsUp.append (first : s.AddsUp mayReach a) (second : s.AddsUp mayReach b) :
    s.AddsUp mayReach (a ++ b) := by
  intro kind
  have one := first kind
  have two := second kind
  simp only [List.map_append, Effect.times_append, cutOff_append, List.countP_append] at one two ⊢
  omega

theorem IsIdle.append (first : s.IsIdle mayReach a) (second : s.IsIdle mayReach b) :
    s.IsIdle mayReach (a ++ b) := by
  intro before start event after h
  rcases List.append_eq_append_iff.1 h with ⟨rest, -, later⟩ | ⟨rest, own, across⟩
  · exact second rest start event after later
  · cases rest with
    | nil => exact second [] start event after across.symm
    | cons x rest =>
      obtain ⟨rfl, rfl⟩ := List.cons.inj across
      exact (first before start event rest own).trans (List.prefix_append rest b)

theorem IsIdle.of_append (idle : s.IsIdle mayReach (a ++ b)) : s.IsIdle mayReach b := by
  rintro before start event after rfl
  exact idle (a ++ before) start event after (List.append_assoc ..).symm

/-- One orderly part after another. -/
theorem Orderly.append (first : s.Orderly mayReach a) (second : s.Orderly mayReach b) :
    s.Orderly mayReach (a ++ b) where
  idle := first.idle.append second.idle
  addsUp := by
    rintro seen ⟨unseen, parts⟩ idle
    -- What was seen ends within the first part, or goes on into the second one.
    rcases List.append_eq_append_iff.1 parts with ⟨rest, short, -⟩ | ⟨later, rfl, within⟩
    · exact first.addsUp seen ⟨rest, short.symm⟩ idle
    · have whole := first.addsUp a List.prefix_rfl first.idle
      exact whole.append (second.addsUp later ⟨unseen, within.symm⟩ idle.of_append)

/-- Where no send begins or ends, nothing can be out of order. -/
theorem orderly_of_quiet (quiet : ∀ x ∈ a, x.2.tellsSend = false) : s.Orderly mayReach a where
  idle := by
    rintro before start event after rfl
    have silent := quiet (start, .submitted event) (by simp)
    cases silent
  addsUp := by
    intro seen part _ kind
    have quiet : ∀ e ∈ seen.map (·.2), e.tellsSend = false := by
      intro e he
      obtain ⟨x, hx, rfl⟩ := List.mem_map.1 he
      exact quiet x (part.subset hx)
    have cut : s.cutOff mayReach seen = [] := by
      refine cutOff_eq_nil fun x hx event submits => ?_
      have silent := quiet x.2 (List.mem_map_of_mem hx)
      rw [submits] at silent
      cases silent
    have none {metric : Metric} (send : (Effect.counted metric).tellsSend = true) :
        Effect.times (seen.map (·.2)) metric = 0 := Effect.times_eq_zero quiet send
    simp only [cut, List.countP_nil]
    rw [none rfl, none rfl, none rfl]

/-- Work that tells of no send is orderly, from whatever instant on. -/
theorem orderly_of_acts {α : Type} {work : Work α} {mayGo : Nat → Bool}
    (quiet : ∀ e ∈ work.acts, e.tellsSend = false) (now : Nat) :
    s.Orderly mayReach (work.actsWhile mayGo now) :=
  orderly_of_quiet fun _ hx => quiet _ (Timed.mem_acts_of_actsWhile mayGo hx)

theorem orderly_pure {α : Type} {mayGo : Nat → Bool} (result : α) (now : Nat) :
    s.Orderly mayReach ((pure result : Work α).actsWhile mayGo now) :=
  orderly_of_acts (by simp) now

/-- Orderly work goes on with orderly work. -/
theorem orderly_bind {α β : Type} {work : Work α} {f : α → Work β} {mayGo : Nat → Bool} {now : Nat}
    (first : s.Orderly mayReach (work.actsWhile mayGo now))
    (second : s.Orderly mayReach ((f work.result).actsWhile mayGo (now + work.duration))) :
    s.Orderly mayReach ((work >>= f).actsWhile mayGo now) := by
  rw [Timed.actsWhile_bind]
  refine first.append ?_
  split
  · exact second
  · exact orderly_of_quiet (by simp)

end Orderly

/-! ## Sending through notifiers -/

section Sending

variable (p : Platform) (notifiers : List Notifier) (event : NotificationEvent)
  (mayReach : Nat → Bool) (now : Nat)

/-- Delivering an event tells of no send. -/
theorem quiet_fanOut : ∀ e ∈ (fanOut p notifiers event).acts, e.tellsSend = false := by
  intro e he
  have delivers := isDelivery_of_fanOut he
  cases e with
  | counted metric => cases metric <;> simp_all [Effect.isDelivery, Effect.tellsSend]
  | _ => simp_all [Effect.isDelivery, Effect.tellsSend]

/-- A send is counted, delivers its event, and is counted again if it gets to its end. -/
theorem actsWhile_overNotifiers :
    (overNotifiers p notifiers event).actsWhile mayReach now =
      (now, .counted (.senderReceived event.notification.kind)) ::
        ((fanOut p notifiers event).actsWhile mayReach now ++
          if (overNotifiers p notifiers event).lastsWhile mayReach now then
            [(now + (fanOut p notifiers event).duration,
              .counted (.senderHandled event.notification.kind
                (outcomeOf (fanOut p notifiers event).result)))] else []) := by
  have shape : overNotifiers p notifiers event =
      .act (.counted (.senderReceived event.notification.kind))
        (fanOut p notifiers event >>= fun result =>
          .act (.counted (.senderHandled event.notification.kind (outcomeOf result)))
            (.done result)) := rfl
  simp only [shape, Timed.actsWhile, Timed.lastsWhile, Timed.actsWhile_bind, Timed.lastsWhile_bind,
    Bool.and_true]

/-- What is counted of one send adds up. -/
theorem addsUp_submit :
    (overNotifiers p notifiers).AddsUp mayReach
      ((now, .submitted event) :: (overNotifiers p notifiers event).actsWhile mayReach now) := by
  intro kind
  have quiet : ∀ e ∈ ((fanOut p notifiers event).actsWhile mayReach now).map (·.2),
      e.tellsSend = false := by
    intro e he
    obtain ⟨x, hx, rfl⟩ := List.mem_map.1 he
    exact quiet_fanOut p notifiers event _ (Timed.mem_acts_of_actsWhile mayReach hx)
  have none {metric : Metric} (send : (Effect.counted metric).tellsSend = true) :
      Effect.times (((fanOut p notifiers event).actsWhile mayReach now).map (·.2)) metric = 0 :=
    Effect.times_eq_zero quiet send
  have rest : (overNotifiers p notifiers).cutOff mayReach
      ((overNotifiers p notifiers event).actsWhile mayReach now) = [] := by
    refine cutOff_eq_nil fun x hx event' submits => ?_
    exact not_submitted_of_send event' (submits ▸ Timed.mem_acts_of_actsWhile mayReach hx)
  have cut : (overNotifiers p notifiers).cutOff mayReach
      ((now, .submitted event) :: (overNotifiers p notifiers event).actsWhile mayReach now) =
        if (overNotifiers p notifiers event).lastsWhile mayReach now then [] else [event] := by
    rw [cutOff] at rest
    rw [cutOff, List.filterMap_cons, rest]
    dsimp only
    cases (overNotifiers p notifiers event).lastsWhile mayReach now <;> rfl
  rw [cut, actsWhile_overNotifiers]
  simp only [List.map_cons, List.map_append, Effect.times_submitted, Effect.times_counted,
    Effect.times_append]
  rw [none rfl, none rfl, none rfl]
  cases (overNotifiers p notifiers event).lastsWhile mayReach now with
  | true =>
    cases outcomeOf (fanOut p notifiers event).result <;>
      simp [Effect.times, Effect.metrics, List.count_cons]
  | false => simp [Effect.times, Effect.metrics, List.countP_cons]

theorem actsWhile_submit (s : Sender) :
    (submit s event).actsWhile mayReach now =
      (now, .submitted event) :: (s event).actsWhile mayReach now := rfl

/-- Handing an event on is orderly. -/
theorem orderly_submit :
    (overNotifiers p notifiers).Orderly mayReach
      ((submit (overNotifiers p notifiers) event).actsWhile mayReach now) where
  idle := by
    intro before start other after h
    rw [actsWhile_submit] at h
    cases before with
    | nil =>
      obtain ⟨same, rfl⟩ := List.cons.inj h
      cases same
      exact List.prefix_rfl
    | cons x before =>
      obtain ⟨-, within⟩ := List.cons.inj h
      have member : (start, Effect.submitted other) ∈
          (overNotifiers p notifiers event).actsWhile mayReach now := by
        rw [within]
        exact List.mem_append_right _ List.mem_cons_self
      exact absurd (Timed.mem_acts_of_actsWhile mayReach member) (not_submitted_of_send other)
  addsUp := by
    intro seen part idle
    rw [actsWhile_submit] at part
    cases seen with
    | nil => exact (orderly_of_quiet (by simp)).addsUp [] List.prefix_rfl idle
    | cons x seen =>
      obtain ⟨rfl, within⟩ := List.cons_prefix_cons.1 part
      have whole := idle [] now event seen rfl
      obtain rfl := within.eq_of_length_le whole.length_le
      exact addsUp_submit p notifiers event mayReach now

end Sending

end Sender

end FlagAlerts
