import FlagAlerts.Bus.Message
import FlagAlerts.Notification
import FlagAlerts.Timed

/-!
# What the service does

The things that can be observed while messages are handled and environments are scanned: questions
to the stores, events handed on for delivery, calls of notifiers, and counted metrics.
-/

namespace FlagAlerts

/-- How a job or a delivery ended. -/
inductive Outcome where
  | success
  | fail
  deriving Repr, DecidableEq, Inhabited

/-- The label of an outcome. -/
def Outcome.label : Outcome → String
  | .success => "success"
  | .fail => "fail"

/-- A counter or histogram, which counts its samples. -/
inductive Metric where
  | messageReceived (kind : String)
  | messageHandled (kind code : String)
  | messageDuration
  | senderReceived (kind : String)
  | senderHandled (kind : String) (outcome : Outcome)
  | delivered (notifier : String) (outcome : Outcome)
  | jobStarted (job : String)
  | jobFinished (job : String) (outcome : Outcome)
  | jobDuration (job : String) (outcome : Outcome)
  deriving Repr, DecidableEq, Inhabited

namespace Metric

/-- A name with labels. -/
def labelled (name : String) (labels : List (String × String)) : String :=
  name ++ "\x7b" ++ ",".intercalate (labels.map fun (k, v) => k ++ "=" ++ v) ++ "\x7d"

/-- The name of a metric with its labels. -/
def name : Metric → String
  | .messageReceived kind => labelled "received_messages_total" [("type", kind)]
  | .messageHandled kind code =>
    labelled "handled_messages_total" [("type", kind), ("code", code)]
  | .messageDuration => "message_handle_duration_seconds"
  | .senderReceived kind => labelled "sender_received_total" [("type", kind)]
  | .senderHandled kind outcome =>
    labelled "sender_handled_total" [("type", kind), ("code", outcome.label)]
  | .delivered notifier outcome =>
    labelled "notifications_delivered_total" [("notifier", notifier), ("outcome", outcome.label)]
  | .jobStarted job => labelled "job_started_total" [("job", job)]
  | .jobFinished job outcome =>
    labelled "job_finished_total" [("job", job), ("code", outcome.label)]
  | .jobDuration job outcome =>
    labelled "job_duration_seconds" [("job", job), ("code", outcome.label)]

/-- The metrics that occur, in order of their first occurrence, and how often each does. -/
def tally (ms : List Metric) : List (Metric × Nat) := ms.eraseDups.map fun m => (m, ms.count m)

end Metric

/-- A call of a notifier: its name, the kind of the notification, the recipient's webhook, and the
language. -/
structure NotifierCall where
  notifier : String
  kind : String
  webhookUrl : String
  language : String
  deriving Repr, DecidableEq, Inhabited

/-- Something that the service does. -/
inductive Effect where
  /-- The environment of a namespace is asked for. -/
  | lookingUp (environmentNamespace : String)
  /-- The answer is there. -/
  | lookedUp (environmentNamespace : String)
  | listedFeatures (environmentId : String)
  | listedExperiments (environmentId : String)
  | listedSubscriptions
  | askedUsage (environmentId month : String)
  /-- An event is handed on for delivery. -/
  | submitted (event : NotificationEvent)
  | notified (call : NotifierCall)
  /-- A message of the bus is settled. -/
  | settled (settlement : Settlement)
  | counted (metric : Metric)
  deriving Repr, DecidableEq, Inhabited

namespace Effect

/-- The events that were handed on. -/
def events (es : List Effect) : List NotificationEvent :=
  es.filterMap fun e => match e with | .submitted event => some event | _ => none

/-- The calls of notifiers. -/
def calls (es : List Effect) : List NotifierCall :=
  es.filterMap fun e => match e with | .notified call => some call | _ => none

/-- How messages were settled. -/
def settlements (es : List Effect) : List Settlement :=
  es.filterMap fun e => match e with | .settled settlement => some settlement | _ => none

/-- The metrics that were counted. -/
def metrics (es : List Effect) : List Metric :=
  es.filterMap fun e => match e with | .counted metric => some metric | _ => none

/-- The questions about the usage of an environment in a month. -/
def usageRequests (es : List Effect) : List (String × String) :=
  es.filterMap fun e => match e with | .askedUsage id month => some (id, month) | _ => none

/-- The namespaces whose look-ups were answered. -/
def lookups (es : List Effect) : List String :=
  es.filterMap fun e => match e with | .lookedUp name => some name | _ => none

/-- The number of pages of feature flags that were asked for. -/
def featureListings (es : List Effect) : Nat :=
  es.countP fun e => match e with | .listedFeatures _ => true | _ => false

/-- The number of pages of subscriptions that were asked for. -/
def subscriptionListings (es : List Effect) : Nat :=
  es.countP fun e => match e with | .listedSubscriptions => true | _ => false

end Effect

/-- Work of the service. -/
abbrev Work (α : Type) := Timed Effect α

end FlagAlerts
