import FlagAlerts.Delivery.Notifier
import FlagAlerts.Store.Platform

/-!
# Sending events

An event is sent to every subscription of its scope that listens to its source type, and there
through every notifier up to the first that fails. A subscription that asks for tags gets a change
of a feature flag only if the flag has one of them. The last failure is the result.
-/

namespace FlagAlerts

/-- Hands an event on for delivery. -/
abbrev Sender := NotificationEvent → Work (Except SendError Unit)

namespace Sender

/-- Whether two lists of tags share one. -/
def sharesTag (a b : List String) : Bool := a.any b.contains

/-- Reads the tags of a feature flag from the text of its state; other fields do not matter. -/
def tagsCodec : Codec (List String) :=
  .record (.optional "tags" (.list .text) [] .nil) (fun (tags, ()) => tags) (fun tags => (tags, ()))

/-- The tags of the feature flag whose change an event tells. -/
def tagsOf (event : NotificationEvent) : Except SendError (List String) :=
  match event.notification.body with
  | .domainEvent _ _ _ _ entityData =>
    (tagsCodec.read (Text.symbols entityData)).mapError (.decodeEntity event.id)
  | _ => .error (.sourceTypeMismatch event.id event.sourceType event.notification.kind)

/-- Whose subscriptions an event is for. -/
def scopeOf (event : NotificationEvent) : Scope :=
  if event.isAdminEvent then .admin else .environment event.environmentId

/-- Whether the subscription asks for tags that matter for the event. -/
def asksForTags (event : NotificationEvent) (s : Subscription) : Bool :=
  event.sourceType == .domainEvent .feature && !s.featureFlagTags.isEmpty

/-- Whether the event is for the subscription. -/
def wants (event : NotificationEvent) (s : Subscription) : Except SendError Bool :=
  if asksForTags event s then (tagsOf event).map (sharesTag s.featureFlagTags) else .ok true

/-- Calls the notifiers for one recipient up to the first that fails, and gives the number of calls
made since the start. -/
def notify (n : Notification) (s : Subscription) :
    List Notifier → (earlier : Nat) → Work (Nat × Except SendError Unit)
  | [], earlier => pure (earlier, .ok ())
  | notifier :: rest, earlier => do
    Timed.tell (.notified
      ⟨notifier.name, n.kind, s.recipient.webhookUrl.getD "", s.recipient.language⟩)
    match ← Timed.await (notifier.deliver earlier n s.recipient) with
    | .ok () =>
      Timed.tell (.counted (.delivered notifier.name .success))
      notify n s rest (earlier + 1)
    | .error e =>
      Timed.tell (.counted (.delivered notifier.name .fail))
      pure (earlier + 1, .error (.notify s.id notifier.name e))

/-- Delivers an event to subscriptions one after another. -/
def deliverAll (notifiers : List Notifier) (event : NotificationEvent) :
    List Subscription → (earlier : Nat) → (last : Except SendError Unit) →
      Work (Except SendError Unit)
  | [], _, last => pure last
  | s :: rest, earlier, last =>
    match wants event s with
    | .error e => pure (.error e)
    | .ok false => deliverAll notifiers event rest earlier last
    | .ok true => do
      let (earlier, result) ← notify event.notification s notifiers earlier
      let last := match result with | .ok () => last | .error e => .error e
      deliverAll notifiers event rest earlier last

/-- Delivers an event to all subscriptions that it is for. -/
def fanOut (p : Platform) (notifiers : List Notifier) (event : NotificationEvent) :
    Work (Except SendError Unit) :=
  if event.notification.expectedSourceType? = some event.sourceType then do
    match ← p.allSubscriptions (scopeOf event) event.sourceType with
    | .error e => pure (.error (.listSubscriptions e))
    | .ok subscriptions => deliverAll notifiers event subscriptions 0 (.ok ())
  else pure (.error (.sourceTypeMismatch event.id event.sourceType event.notification.kind))

/-- The outcome that a result counts as. -/
def outcomeOf : Except SendError Unit → Outcome
  | .ok () => .success
  | .error _ => .fail

/-- Sends events through notifiers. -/
def overNotifiers (p : Platform) (notifiers : List Notifier) : Sender := fun event => do
  let kind := event.notification.kind
  Timed.tell (.counted (.senderReceived kind))
  let result ← fanOut p notifiers event
  Timed.tell (.counted (.senderHandled kind (outcomeOf result)))
  return result

/-- Sends nothing, and fails for some environments. -/
def failing (environmentIds : List String) (delay : Nat) : Sender := fun event =>
  Timed.await ⟨delay,
    if environmentIds.contains event.environmentId then
      .error (.listSubscriptions (.unavailable ("subscriptions of " ++ event.environmentId)))
    else .ok ()⟩

/-- Hands an event on, which can be observed. -/
def submit (sender : Sender) (event : NotificationEvent) : Work (Except SendError Unit) := do
  Timed.tell (.submitted event)
  sender event

end Sender

end FlagAlerts
