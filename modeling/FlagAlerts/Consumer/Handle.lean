import FlagAlerts.Bus.Message
import FlagAlerts.Config.Basic
import FlagAlerts.Delivery.Sender
import FlagAlerts.Numbers

/-!
# Handling a message

A message tells a change on the platform. It is turned into an event about the environment of the
change and handed on for delivery, all before a deadline. How that ends decides whether the message
is acknowledged: only if nothing was handed on yet, and another try may do better, is it handed
back.
-/

namespace FlagAlerts

/-- How handling a message ended. -/
inductive HandleCode where
  | ok
  /-- The message cannot be used, now or later. -/
  | badMessage
  /-- The message may be of use later. -/
  | repeatable
  /-- The delivery failed. -/
  | nonRepeatable
  deriving Repr, DecidableEq, Inhabited

namespace HandleCode

/-- The label of a code. -/
def label : HandleCode → String
  | .ok => "ok"
  | .badMessage => "bad_message"
  | .repeatable => "repeatable_error"
  | .nonRepeatable => "non_repeatable_error"

/-- Every code. -/
def all : List HandleCode := [.ok, .badMessage, .repeatable, .nonRepeatable]

/-- Whether the message is acknowledged. -/
def shouldAck : HandleCode → Bool
  | .repeatable => false
  | _ => true

end HandleCode

/-- What handling a message needs. -/
structure Handler where
  platform : Platform
  sender : Sender
  /-- How long handling a message may take, in milliseconds. -/
  timeout : Nat
  /-- The name that new events get. -/
  newId : String

namespace Handler

/-- The label of the messages. -/
def messageKind : String := "domain_event"

/-- The attribute that names a message. -/
def idAttribute : String := "id"

/-- The last second that a clock can tell. -/
def lastSecond : Nat := maxInt64.toNat

/-- A handler with the time limit of the settings. -/
def ofConfig (c : ConsumerConfig) (platform : Platform) (sender : Sender) (newId : String) :
    Handler :=
  ⟨platform, sender, c.handleTimeoutSeconds.toNat * 1000, newId⟩

/-- Whether a clock can tell the deadline of a message that is handled from a millisecond on.
Otherwise the attempt to handle it ends the whole run. -/
def hasDeadline (h : Handler) (now : Nat) : Bool := (now + h.timeout) / 1000 ≤ lastSecond

/-- The event that tells a change; a change across all environments has no environment. -/
def eventOf (newId : String) (change : DomainEvent) (environment : Option Environment)
    (sourceType : SourceType) : NotificationEvent :=
  let environmentId := (environment.map (·.id)).getD ""
  { id := newId
    environmentId := environmentId
    sourceType := sourceType
    notification :=
      ⟨environmentId, (environment.map (·.urlCode)).getD "",
        .domainEvent change.editor change.entityType change.entityId change.eventType
          change.entityData⟩
    isAdminEvent := change.isAdminEvent }

/-- Hands on the event that tells a change, with what is left of the time. -/
def handOn (h : Handler) (change : DomainEvent) (environment : Option Environment)
    (timeLeft : Nat) : Work HandleCode :=
  match change.entityType.sourceType? with
  | none => pure .badMessage
  | some sourceType => do
    let event := eventOf h.newId change environment sourceType
    match ← (Sender.submit h.sender event).within timeLeft with
    | some (.ok ()) => pure .ok
    | _ => pure .nonRepeatable

/-- Tells a change, after a look-up of its environment if it has one. -/
def tellChange (h : Handler) (change : DomainEvent) : Work HandleCode :=
  if change.isAdminEvent then h.handOn change none h.timeout
  else do
    let lookup := h.platform.lookUp change.environmentNamespace
    match ← lookup.within h.timeout with
    | some (.ok environment) => h.handOn change (some environment) (h.timeout - lookup.duration)
    | some (.error e) => pure (if e.isNotFound then .badMessage else .repeatable)
    | none => pure .repeatable

/-- Decides how a message is settled. -/
def process (h : Handler) (m : BusMessage) : Work HandleCode :=
  if (m.valueOf idAttribute).isEmpty then pure .badMessage
  else
    match DomainEvent.codec.read (Text.symbolsOfBytes m.data) with
    | .ok change => h.tellChange change
    | .error _ => pure .badMessage

/-- A message is taken on. -/
def takenOn : Effect := .counted (.messageReceived messageKind)

/-- Handles a message and settles it. -/
def handle (h : Handler) (m : BusMessage) : Work HandleCode := do
  Timed.tell takenOn
  let code ← h.process m
  Timed.tell (.settled ⟨m.id, code.shouldAck⟩)
  Timed.tell (.counted (.messageHandled messageKind code.label))
  Timed.tell (.counted .messageDuration)
  return code

end Handler

end FlagAlerts
