import FlagAlerts.Proofs.Delivery.FanOut

/-!
# Sending without a failure

If sending an event succeeds, then no call failed, so none was left out: every subscription that the
event reaches had one call of every notifier, in order.
-/

namespace FlagAlerts.Effect

@[simp] theorem calls_nil : calls [] = [] := rfl

@[simp] theorem calls_append (a b : List Effect) : calls (a ++ b) = calls a ++ calls b :=
  List.filterMap_append

@[simp] theorem calls_counted (metric : Metric) (es : List Effect) :
    calls (.counted metric :: es) = calls es := rfl

@[simp] theorem calls_submitted (event : NotificationEvent) (es : List Effect) :
    calls (.submitted event :: es) = calls es := rfl

@[simp] theorem calls_settled (settlement : Settlement) (es : List Effect) :
    calls (.settled settlement :: es) = calls es := rfl

/-- The calls of the first part of what is done are the first part of the calls. -/
theorem calls_prefix {a b : List Effect} (h : a <+: b) : calls a <+: calls b := by
  obtain ⟨rest, rfl⟩ := h
  exact ⟨calls rest, (calls_append a rest).symm⟩

theorem calls_eq_nil {es : List Effect} (none : ∀ e ∈ es, ∀ call, e ≠ .notified call) :
    calls es = [] := by
  apply List.filterMap_eq_nil_iff.2
  intro e he
  cases e with
  | notified call => exact absurd rfl (none _ he call)
  | _ => rfl

/-- Whether an effect belongs to the delivery of an event: a listing of subscriptions, a call, or
the count of one. -/
def isDelivery : Effect → Bool
  | .listedSubscriptions | .notified _ | .counted (.delivered _ _) => true
  | _ => false

/-- Whether an effect belongs to the sending of an event: it is of its delivery, or counts its
beginning or its end. -/
def isOfSending : Effect → Bool
  | .counted (.senderReceived _) | .counted (.senderHandled _ _) => true
  | e => e.isDelivery

/-- Where all that is done belongs to sending, there is nothing of any other sort. -/
theorem filterMap_of_isOfSending {α : Type} {f : Effect → Option α} {es : List Effect}
    (own : ∀ e ∈ es, e.isOfSending = true) (other : ∀ e, e.isOfSending = true → f e = none) :
    es.filterMap f = [] :=
  List.filterMap_eq_nil_iff.2 fun e he => other e (own e he)

end FlagAlerts.Effect

namespace FlagAlerts.Sender

/-- The sender does nothing but send: it hands on no event, asks no other store and settles no
message. -/
def KeepsToItself (s : Sender) : Prop := ∀ event, ∀ e ∈ (s event).acts, e.isOfSending = true

/-- The call of a notifier for a subscription. -/
def callOf (n : Notification) (s : Subscription) (notifier : Notifier) : NotifierCall :=
  ⟨notifier.name, n.kind, s.recipient.webhookUrl.getD "", s.recipient.language⟩

/-- Subscriptions get one call of every notifier, one after another. -/
def callsForAll (notifiers : List Notifier) (n : Notification) (subscriptions : List Subscription) :
    List NotifierCall :=
  subscriptions.flatMap fun s => notifiers.map (callOf n s)

section Calls

variable {n : Notification} {s : Subscription} {notifiers : List Notifier} {earlier : Nat}
  {subscriptions : List Subscription}

/-- The calls that are to be seen are those that were attempted. -/
theorem calls_effects (n : Notification) (as : List Attempt) :
    Effect.calls (as.flatMap (Attempt.effects n.kind)) =
      as.map fun a => callOf n a.subscription a.notifier := by
  induction as with
  | nil => rfl
  | cons a as ih =>
    rw [List.flatMap_cons, Effect.calls_append, ih]
    rfl

/-- No call has failed. -/
def AllSucceed (as : List Attempt) : Prop := ∀ a ∈ as, a.answer = .ok ()

theorem allSucceed_of_lastError {as : List Attempt}
    (h : Attempt.lastError (.ok ()) as = .ok ()) : AllSucceed as := by
  have none : as.filterMap Attempt.error? = [] := by
    rw [Attempt.lastError] at h
    split at h
    next => cases h
    next last => exact List.getLast?_eq_none_iff.1 last
  intro a ha
  have quiet := List.filterMap_eq_nil_iff.1 none a ha
  rw [Attempt.error?] at quiet
  split at quiet
  next ok => exact ok
  next => cases quiet

/-- If no call for a subscription fails, every notifier is called. -/
theorem calls_of_allSucceed (succeed : AllSucceed (attemptsFor notifiers n earlier s)) :
    (attemptsFor notifiers n earlier s).map (fun a => callOf n a.subscription a.notifier) =
      notifiers.map (callOf n s) := by
  induction notifiers generalizing earlier with
  | nil => rfl
  | cons notifier rest ih =>
    rw [attemptsFor_cons] at succeed ⊢
    obtain ⟨first, others⟩ := List.forall_mem_cons.1 succeed
    dsimp only at first
    rw [first] at others ⊢
    rw [List.map_cons, List.map_cons, ih others]

theorem callsForAll_of_allSucceed
    (succeed : AllSucceed (attempts notifiers n earlier subscriptions)) :
    (attempts notifiers n earlier subscriptions).map (fun a => callOf n a.subscription a.notifier) =
      callsForAll notifiers n subscriptions := by
  induction subscriptions generalizing earlier with
  | nil => rfl
  | cons s rest ih =>
    obtain ⟨own, others⟩ := List.forall_mem_append.1 succeed
    rw [attempts, List.map_append, calls_of_allSucceed own, ih others]
    rfl

end Calls

/-- Sending that succeeds has listed the subscriptions, and called every notifier for each that the
event reaches; all these calls succeeded. -/
theorem calls_of_sent {p : Platform} {notifiers : List Notifier} {event : NotificationEvent}
    (sent : (overNotifiers p notifiers event).result = .ok ()) :
    ∃ subscriptions,
      (p.allSubscriptions (scopeOf event) event.sourceType).result = .ok subscriptions ∧
        Effect.calls (overNotifiers p notifiers event).acts =
          callsForAll notifiers event.notification (reached event subscriptions) ∧
        AllSucceed (attempts notifiers event.notification 0 (reached event subscriptions)) := by
  have out : (fanOut p notifiers event).result = .ok () := by
    simpa [overNotifiers] using sent
  by_cases expected : event.notification.expectedSourceType? = some event.sourceType
  · cases listed : (p.allSubscriptions (scopeOf event) event.sourceType).result with
    | error e => simp [fanOut, expected, listed] at out
    | ok subscriptions =>
      have listing : Effect.calls (p.allSubscriptions (scopeOf event) event.sourceType).acts = [] := by
        apply Effect.calls_eq_nil
        intro e he call same
        cases same.symm.trans (acts_allSubscriptions he)
      obtain ⟨result, acts⟩ := deliverAll_spec notifiers expected subscriptions 0 (.ok ())
      simp only [fanOut, expected, if_true, Timed.result_bind, listed] at out
      rw [result] at out
      split at out
      next => cases out
      next =>
        have succeed := allSucceed_of_lastError out
        refine ⟨subscriptions, rfl, ?_, succeed⟩
        rw [← callsForAll_of_allSucceed succeed, ← calls_effects, ← acts]
        simp [overNotifiers, fanOut, expected, listed, listing]
  · simp [fanOut, expected] at out

/-- Delivering an event does nothing but list subscriptions and make calls. -/
theorem isDelivery_of_fanOut {p : Platform} {notifiers : List Notifier} {event : NotificationEvent}
    {e : Effect} (he : e ∈ (fanOut p notifiers event).acts) : e.isDelivery = true := by
  by_cases expected : event.notification.expectedSourceType? = some event.sourceType
  · simp only [fanOut, expected, if_true, Timed.acts_bind] at he
    rcases List.mem_append.1 he with listed | delivered
    · rw [acts_allSubscriptions listed]
      rfl
    · split at delivered
      next => simp at delivered
      next subscriptions _ =>
        rw [(deliverAll_spec notifiers expected subscriptions 0 (.ok ())).2] at delivered
        obtain ⟨attempt, -, of⟩ := List.mem_flatMap.1 delivered
        simp only [Attempt.effects, List.mem_cons, List.not_mem_nil, or_false] at of
        rcases of with rfl | rfl <;> rfl
  · simp [fanOut, expected] at he

/-- Sending an event does nothing but deliver it and count. -/
theorem effect_of_send {p : Platform} {notifiers : List Notifier} {event : NotificationEvent}
    {e : Effect} (he : e ∈ (overNotifiers p notifiers event).acts) :
    e.isDelivery = true ∨ ∃ metric, e = .counted metric := by
  simp only [overNotifiers, Timed.acts_bind, Timed.acts_tell, Timed.acts_pure, List.append_nil,
    List.mem_append, List.mem_singleton] at he
  rcases he with begins | delivers | ends
  · exact .inr ⟨_, begins⟩
  · exact .inl (isDelivery_of_fanOut delivers)
  · exact .inr ⟨_, ends⟩

/-- Sending events through notifiers does nothing but send. -/
theorem overNotifiers_keepsToItself (p : Platform) (notifiers : List Notifier) :
    (overNotifiers p notifiers).KeepsToItself := by
  intro event e he
  simp only [overNotifiers, Timed.acts_bind, Timed.acts_tell, Timed.acts_pure, List.append_nil,
    List.mem_append, List.mem_singleton] at he
  rcases he with rfl | delivers | rfl
  · rfl
  · have delivery := isDelivery_of_fanOut delivers
    unfold Effect.isOfSending
    split <;> first | rfl | exact delivery
  · rfl

/-- A sender that sends nothing does nothing at all. -/
theorem failing_keepsToItself (environmentIds : List String) (delay : Nat) :
    (failing environmentIds delay).KeepsToItself := by
  intro event e he
  simp [failing] at he

/-- Sending an event settles no message. -/
theorem not_settled_of_send {p : Platform} {notifiers : List Notifier} {event : NotificationEvent}
    (settlement : Settlement) : .settled settlement ∉ (overNotifiers p notifiers event).acts :=
  fun he => absurd (effect_of_send he) (by simp [Effect.isDelivery])

/-- Sending an event hands on no other one. -/
theorem not_submitted_of_send {p : Platform} {notifiers : List Notifier}
    {event : NotificationEvent} (other : NotificationEvent) :
    .submitted other ∉ (overNotifiers p notifiers event).acts :=
  fun he => absurd (effect_of_send he) (by simp [Effect.isDelivery])

end FlagAlerts.Sender

namespace FlagAlerts.Platform

/-- Whether the subscriptions are those of a world, however long the answers take. -/
structure Holds (p : Platform) (w : World) : Prop where
  subscriptions : ∀ scope sourceTypes request,
    (p.subscriptions scope sourceTypes request).value =
      w.listSubscriptions scope sourceTypes request
  pages : p.pages = w.platform.pages

/-- What a listing finds does not depend on how long the answers take. -/
theorem Holds.allSubscriptions_result {p : Platform} {w : World} (holds : p.Holds w) (scope : Scope)
    (sourceType : SourceType) :
    (p.allSubscriptions scope sourceType).result =
      (w.platform.allSubscriptions scope sourceType).result := by
  unfold allSubscriptions
  rw [holds.pages]
  apply Page.result_collectFrom_congr
  intro request
  simp only [Timed.result_bind, Timed.result_await, holds.subscriptions]
  rfl

end FlagAlerts.Platform
