import FlagAlerts.Catalog
import FlagAlerts.Entity

/-!
# Notifications

A change on the platform is published as a domain event. What subscribers are told, about a change
or about the outcome of a regular scan, is a notification; together with its scope and source type
it makes an event, the unit of work that is sent.
-/

namespace FlagAlerts

/-- The account behind a change. -/
structure Editor where
  email : String
  name : String := ""
  isAdmin : Bool := false
  deriving Repr, DecidableEq, Inhabited

/-- A change, as it is published. -/
structure DomainEvent where
  id : String
  timestamp : Int64 := 0
  entityType : EntityType
  entityId : String
  eventType : String
  editor : Editor
  environmentNamespace : String := ""
  isAdminEvent : Bool := false
  /-- The entity after the change, as a JSON text. -/
  entityData : String := ""
  previousEntityData : String := ""
  deriving Repr, DecidableEq, Inhabited

/-- What a notification says, apart from its environment. -/
inductive NotificationBody where
  /-- An entity was changed; its state after the change is a JSON text. -/
  | domainEvent (editor : Editor) (entityType : EntityType) (entityId eventType entityData : String)
  /-- Feature flags have not been used for long. -/
  | featureStale (features : List Feature)
  /-- Experiments are running. -/
  | experimentRunning (experiments : List Experiment)
  /-- The usage over a month. -/
  | mauCount (count : MauCount) (year : Int32) (month : UInt32)
  deriving Repr, DecidableEq, Inhabited

/-- What subscribers are told about an environment. -/
structure Notification where
  environmentId : String
  environmentUrlCode : String
  body : NotificationBody
  deriving Repr, DecidableEq, Inhabited

/-- The unit of work that is sent. -/
structure NotificationEvent where
  id : String
  /-- Empty for an event across all environments. -/
  environmentId : String
  sourceType : SourceType
  notification : Notification
  isAdminEvent : Bool
  deriving Repr, DecidableEq, Inhabited

namespace Editor

/-- An account is written as a record. -/
def codec : Codec Editor :=
  .record
    (.required "email" .text <| .optional "name" .text "" <| .optional "is_admin" .bool false .nil)
    (fun (email, name, isAdmin, ()) => ⟨email, name, isAdmin⟩)
    (fun e => (e.email, e.name, e.isAdmin, ()))

end Editor

namespace DomainEvent

/-- A change is written as a record. -/
def codec : Codec DomainEvent :=
  .record
    (.required "id" .text <| .optional "timestamp" .int64 0 <|
      .required "entity_type" EntityType.codec <| .required "entity_id" .text <|
      .required "type" .text <| .required "editor" Editor.codec <|
      .optional "environment_namespace" .text "" <| .optional "is_admin_event" .bool false <|
      .optional "entity_data" .text "" <| .optional "previous_entity_data" .text "" .nil)
    (fun (id, timestamp, entityType, entityId, eventType, editor, environmentNamespace,
        isAdminEvent, entityData, previousEntityData, ()) =>
      ⟨id, timestamp, entityType, entityId, eventType, editor, environmentNamespace, isAdminEvent,
        entityData, previousEntityData⟩)
    (fun e =>
      (e.id, e.timestamp, e.entityType, e.entityId, e.eventType, e.editor, e.environmentNamespace,
        e.isAdminEvent, e.entityData, e.previousEntityData, ()))

end DomainEvent

namespace Notification

/-- The label of a notification's kind. -/
def kind (n : Notification) : String :=
  match n.body with
  | .domainEvent .. => "domain_event"
  | .featureStale _ => "feature_stale"
  | .experimentRunning _ => "experiment_running"
  | .mauCount .. => "mau_count"

/-- The source type that subscriptions to this notification listen to; none for a change of an
unknown kind of entity. -/
def expectedSourceType? (n : Notification) : Option SourceType :=
  match n.body with
  | .domainEvent _ entityType _ _ _ => entityType.sourceType?
  | .featureStale _ => some .featureStale
  | .experimentRunning _ => some .experimentRunning
  | .mauCount .. => some .mauCount

/-- The fields of a notification of a change. -/
def domainEventFields :=
  Fields.required "environment_id" .text <| .required "environment_url_code" .text <|
    .required "editor" Editor.codec <| .required "entity_type" EntityType.codec <|
    .required "entity_id" .text <| .required "event_type" .text <|
    .required "entity_data" .text .nil

/-- The fields of a notification that lists things under the given name. -/
def listingFields {α : Type} (name : String) (item : Codec α) :=
  Fields.required "environment_id" .text <| .required "environment_url_code" .text <|
    .required name (.list item) .nil

/-- The fields of a notification of a month's usage. -/
def mauCountFields :=
  Fields.required "environment_id" .text <| .required "environment_url_code" .text <|
    .required "event_count" .int64 <| .required "user_count" .int64 <|
    .required "year" .int32 <| .required "month" .uint32 .nil

/-- The kind and the fields that a notification is written with. -/
def entries (n : Notification) : List (String × Json) :=
  match n.body with
  | .domainEvent editor entityType entityId eventType entityData =>
    domainEventFields.entries
      (n.environmentId, n.environmentUrlCode, editor, entityType, entityId, eventType, entityData,
        ())
  | .featureStale features =>
    (listingFields "features" Feature.codec).entries
      (n.environmentId, n.environmentUrlCode, features, ())
  | .experimentRunning experiments =>
    (listingFields "experiments" Experiment.codec).entries
      (n.environmentId, n.environmentUrlCode, experiments, ())
  | .mauCount count year month =>
    mauCountFields.entries
      (n.environmentId, n.environmentUrlCode, count.eventCount, count.userCount, year, month, ())

/-- How the fields of a notification of the given kind are read. -/
def reader? (kind : String) : Option (Doc → Except Fault Notification) :=
  if kind == "domain_event" then
    some fun d => do
      let (id, urlCode, editor, entityType, entityId, eventType, entityData, ()) ←
        domainEventFields.decode .kept d
      return ⟨id, urlCode, .domainEvent editor entityType entityId eventType entityData⟩
  else if kind == "feature_stale" then
    some fun d => do
      let (id, urlCode, features, ()) ← (listingFields "features" Feature.codec).decode .kept d
      return ⟨id, urlCode, .featureStale features⟩
  else if kind == "experiment_running" then
    some fun d => do
      let (id, urlCode, experiments, ()) ←
        (listingFields "experiments" Experiment.codec).decode .kept d
      return ⟨id, urlCode, .experimentRunning experiments⟩
  else if kind == "mau_count" then
    some fun d => do
      let (id, urlCode, eventCount, userCount, year, month, ()) ← mauCountFields.decode .kept d
      return ⟨id, urlCode, .mauCount ⟨eventCount, userCount⟩ year month⟩
  else none

/-- A notification is written as a record tagged with its kind. -/
def codec : Codec Notification := .tagged "kind" (fun n => (n.kind, n.entries)) reader?

end Notification

namespace NotificationEvent

/-- An event is written as a record. -/
def codec : Codec NotificationEvent :=
  .record
    (.required "id" .text <| .required "environment_id" .text <|
      .required "source_type" SourceType.codec <| .required "notification" Notification.codec <|
      .required "is_admin_event" .bool .nil)
    (fun (id, environmentId, sourceType, notification, isAdminEvent, ()) =>
      ⟨id, environmentId, sourceType, notification, isAdminEvent⟩)
    (fun e => (e.id, e.environmentId, e.sourceType, e.notification, e.isAdminEvent, ()))

end NotificationEvent

end FlagAlerts
