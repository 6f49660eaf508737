import FlagAlerts.Delivery.Error
import FlagAlerts.Effect
import FlagAlerts.Message.Layout
import FlagAlerts.Subscription

/-!
# Notifiers

A notifier delivers notifications through one kind of channel. The one here posts messages to the
incoming webhooks of channels, and passes over recipients of any other kind.
-/

namespace FlagAlerts

/-- Whether and when a notification arrives. -/
abbrev Delivery := Delayed (Except NotifyError Unit)

/-- A notifier. Its answer may depend on how many calls were made before this one. -/
structure Notifier where
  name : String
  deliver : (earlier : Nat) → Notification → Recipient → Delivery

/-- What comes back from a webhook, if anything. -/
inductive WebhookReply where
  | unreachable
  | response (status : Nat) (body : String)
  deriving Repr, DecidableEq, Inhabited

namespace WebhookReply

/-- A reply as the result of a delivery: any status from 200 to 299 is a success. -/
def result : WebhookReply → Except NotifyError Unit
  | .unreachable => .error .unreachable
  | .response status body =>
    if 200 ≤ status && status < 300 then .ok () else .error (.status status body)

end WebhookReply

/-- Posts a message to an address. -/
abbrev Transport := (earlier : Nat) → (address body : String) → Delayed WebhookReply

namespace Transport

/-- Reaches nobody. -/
def offline : Transport := fun _ _ _ => ⟨0, .unreachable⟩

end Transport

namespace Notifier

/-- The webhook of a recipient in a channel. -/
def webhook? (r : Recipient) : Option String := r.webhookUrl.filter fun url => !url.isEmpty

/-- The message for a recipient and the address it goes to; none if nothing is to be delivered. -/
def messageFor (console : Message.Console) (n : Notification) (r : Recipient) :
    Except NotifyError (Option (String × Message.ChannelMessage)) :=
  match r.kind with
  | .unknown => .ok none
  | .slackChannel =>
    match webhook? r with
    | none => .error (.missingChannel "slack channel")
    | some url =>
      match Message.Language.ofCode? r.language with
      | none => .error (.unsupportedLanguage r.language)
      | some l => .ok (some (url, Message.render console l n))

/-- The notifier that posts messages with links to the console at an address. -/
def slack (webUrl : String) (transport : Transport) : Notifier where
  name := "slack"
  deliver earlier n r :=
    match messageFor (.ofUrl webUrl) n r with
    | .error e => ⟨0, .error e⟩
    | .ok none => ⟨0, .ok ()⟩
    | .ok (some (url, m)) =>
      let reply := transport earlier url m.compact
      ⟨reply.delay, reply.value.result⟩

/-- A notifier that fails for some webhooks and for some languages. -/
def failing (name : String) (webhooks languages : List String) (delay : Nat) : Notifier where
  name := name
  deliver _ _ r :=
    ⟨delay,
      if r.webhookUrl.any webhooks.contains then
        .error (.status 500 ("failure for " ++ r.webhookUrl.getD ""))
      else if languages.contains r.language then .error (.unsupportedLanguage r.language)
      else .ok ()⟩

end Notifier

end FlagAlerts
