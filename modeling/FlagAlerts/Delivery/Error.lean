import FlagAlerts.Json.Document
import FlagAlerts.Store.Page
import FlagAlerts.Entity

/-!
# Why a delivery fails
-/

namespace FlagAlerts

open FlagAlerts.Text

/-- Why a notifier does not deliver a notification. -/
inductive NotifyError where
  | unsupportedLanguage (code : String)
  /-- The recipient lacks the settings of its channel. -/
  | missingChannel (channel : String)
  /-- The webhook could not be reached. -/
  | unreachable
  /-- The webhook refused the message. -/
  | status (code : Nat) (body : String)
  deriving Repr, DecidableEq, Inhabited

/-- Why an event is not delivered to all its subscribers. -/
inductive SendError where
  | listSubscriptions (source : StoreError)
  /-- The state of the changed entity cannot be read. -/
  | decodeEntity (eventId : String) (fault : Fault)
  | sourceTypeMismatch (eventId : String) (sourceType : SourceType) (kind : String)
  | notify (subscriptionId notifier : String) (source : NotifyError)
  deriving Repr, DecidableEq, Inhabited

namespace NotifyError

/-- The text of an error. What went wrong on the way to a webhook is not told. -/
def message : NotifyError → String
  | .unsupportedLanguage code => "unsupported language: " ++ quoted code
  | .missingChannel channel => "recipient has no " ++ channel ++ " configuration"
  | .unreachable => "webhook request failed: "
  | .status code body => "webhook responded with status " ++ decimal code ++ ": " ++ body

end NotifyError

namespace SendError

/-- The text of an error up to the text of a source that is not told. -/
def message : SendError → String
  | .listSubscriptions source => "failed to list subscriptions: " ++ source.message
  | .decodeEntity eventId _ => "failed to decode entity snapshot for event " ++ eventId ++ ": "
  | .sourceTypeMismatch eventId sourceType kind =>
    "event " ++ eventId ++ " has source type " ++ sourceType.name ++ " but carries a " ++ kind ++
      " notification"
  | .notify subscriptionId notifier source =>
    "notifier " ++ notifier ++ " failed for subscription " ++ subscriptionId ++ ": " ++
      match source with
      | .unreachable => ""
      | source => source.message

/-- The texts of an error and of its sources, outermost first. -/
def chain (e : SendError) : List String :=
  e.message ::
    match e with
    | .listSubscriptions source => [source.message]
    | .notify _ _ source => [source.message]
    | _ => []

end SendError

end FlagAlerts
