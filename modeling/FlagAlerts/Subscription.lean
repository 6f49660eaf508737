import FlagAlerts.Entity

/-!
# Subscriptions

A subscription asks for the notifications of some source types, in one environment or across all of
them, and says where and in which language they are delivered.
-/

namespace FlagAlerts

/-- The kind of channel that a recipient is reached through. -/
inductive RecipientKind where
  | slackChannel
  /-- A kind that nothing here delivers to. -/
  | unknown
  deriving Repr, DecidableEq, Inhabited

/-- Where and in which language notifications are delivered. -/
structure Recipient where
  kind : RecipientKind
  /-- A language code. -/
  language : String
  /-- The address of the incoming webhook of a channel. -/
  webhookUrl : Option String := none
  deriving Repr, DecidableEq, Inhabited

/-- A wish to be notified. -/
structure Subscription where
  id : String
  /-- Empty for a subscription across all environments. -/
  environmentId : String := ""
  sourceTypes : List SourceType
  recipient : Recipient
  /-- If there are any, changes of a feature flag are delivered only if it has one of these tags. -/
  featureFlagTags : List String := []
  enabled : Bool
  deriving Repr, DecidableEq, Inhabited

namespace RecipientKind

/-- The name that a kind is written with. -/
def name : RecipientKind → String
  | .slackChannel => "SLACK_CHANNEL"
  | .unknown => "UNKNOWN"

/-- The label of a kind in logs and metrics. -/
def label : RecipientKind → String
  | .slackChannel => "slack_channel"
  | .unknown => "unknown"

/-- A kind is written as its name; any other name stands for an unknown one. -/
def codec : Codec RecipientKind := .cases name [.slackChannel] (some .unknown)

end RecipientKind

namespace Recipient

/-- The recipient behind a webhook of a channel. -/
def slack (webhookUrl language : String) : Recipient := ⟨.slackChannel, language, some webhookUrl⟩

/-- The webhook of a channel is written as a record of its own. -/
def webhookCodec : Codec String :=
  .record (.required "webhook_url" .text .nil) (fun (url, ()) => url) (fun url => (url, ()))

/-- A recipient is written as a record. -/
def codec : Codec Recipient :=
  .record
    (.required "kind" RecipientKind.codec <| .required "language" .text <|
      .optional "slack_channel_recipient" (.option webhookCodec) none .nil)
    (fun (kind, language, webhookUrl, ()) => ⟨kind, language, webhookUrl⟩)
    (fun r => (r.kind, r.language, r.webhookUrl, ()))

end Recipient

namespace Subscription

/-- A subscription is written as a record. -/
def codec : Codec Subscription :=
  .record
    (.required "id" .text <| .optional "environment_id" .text "" <|
      .required "source_types" (.list SourceType.codec) <| .required "recipient" Recipient.codec <|
      .optional "feature_flag_tags" (.list .text) [] <| .required "enabled" .bool .nil)
    (fun (id, environmentId, sourceTypes, recipient, featureFlagTags, enabled, ()) =>
      ⟨id, environmentId, sourceTypes, recipient, featureFlagTags, enabled⟩)
    (fun s =>
      (s.id, s.environmentId, s.sourceTypes, s.recipient, s.featureFlagTags, s.enabled, ()))

end Subscription

end FlagAlerts
