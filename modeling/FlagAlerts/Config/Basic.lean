import FlagAlerts.Config.Setting
import FlagAlerts.Config.SocketAddress

/-!
# Settings

All settings of the service with their names and defaults, and how they are written and read.
-/

namespace FlagAlerts

/-- The form of log lines. -/
inductive LogFormat where
  | text
  | json
  deriving Repr, DecidableEq, Inhabited

/-- The endpoint for metrics and health. -/
structure MetricsConfig where
  enabled : Bool := true
  listenAddress : SocketAddress := ⟨.dotted [0, 0, 0, 0], 9090⟩
  deriving Repr, DecidableEq, Inhabited

/-- Flow control of the message subscription. -/
structure PullerConfig where
  /-- How many workers pull at a time. -/
  concurrency : UInt64 := 1
  /-- How many messages may be delivered and not yet settled. -/
  maxOutstandingMessages : UInt64 := 1000
  /-- How many bytes of payload may be delivered and not yet settled. -/
  maxOutstandingBytes : UInt64 := 104857600
  maxMessagesPerSecond : UInt32 := 5000
  deriving Repr, DecidableEq, Inhabited

/-- The job that consumes messages. -/
structure ConsumerConfig where
  schedule : String := "* * * * *"
  /-- How long a run goes on. -/
  runningSeconds : UInt64 := 50
  /-- How long handling one message may take. -/
  handleTimeoutSeconds : UInt64 := 5
  deriving Repr, DecidableEq, Inhabited

/-- The scheduler of jobs. -/
structure SchedulerConfig where
  timezone : String := "Asia/Tokyo"
  /-- How long stopping waits for runs before it aborts them. -/
  stopGraceSeconds : UInt64 := 30
  deriving Repr, DecidableEq, Inhabited

/-- The job of one scan. -/
structure WatcherConfig where
  schedule : String
  timeoutSeconds : UInt64 := 300
  deriving Repr, DecidableEq, Inhabited

/-- The jobs of all scans. -/
structure WatchersConfig where
  featureStale : WatcherConfig := { schedule := "0 10 * * MON" }
  experimentRunning : WatcherConfig := { schedule := "0 10 * * *" }
  mauCount : WatcherConfig := { schedule := "0 10 1 * *" }
  /-- A flag unused for longer is stale. -/
  staleThresholdSeconds : Int64 := 7776000
  /-- The zone in which the month before is determined. -/
  mauReferenceTimezone : String := "Asia/Tokyo"
  deriving Repr, DecidableEq, Inhabited

/-- Delivery to incoming webhooks. -/
structure SlackConfig where
  requestTimeoutSeconds : UInt64 := 10
  deriving Repr, DecidableEq, Inhabited

/-- All settings. -/
structure Config where
  logLevel : String := "info"
  logFormat : LogFormat := .text
  /-- The address of the web console. -/
  webUrl : String := "http://localhost:8080"
  metrics : MetricsConfig := {}
  puller : PullerConfig := {}
  consumer : ConsumerConfig := {}
  scheduler : SchedulerConfig := {}
  watchers : WatchersConfig := {}
  slack : SlackConfig := {}
  deriving Repr, DecidableEq, Inhabited

/-- The name of a form of log lines. -/
def LogFormat.name : LogFormat → String
  | .text => "text"
  | .json => "json"

/-! ## Names of the settings -/

/-- The forms of log lines as a setting. -/
def LogFormat.setting : Setting LogFormat := .cases name [.text, .json]

/-- The section of the endpoint. -/
def MetricsConfig.setting : Setting MetricsConfig :=
  .record
    (.cons "enabled" .bool <|
      .cons "listen_address" (.formed SocketAddress.text SocketAddress.parse?) .nil)
    (fun (enabled, listenAddress, ()) => { enabled, listenAddress })
    (fun c => (c.enabled, c.listenAddress, ()))

/-- The section of the flow control. -/
def PullerConfig.setting : Setting PullerConfig :=
  .record
    (.cons "concurrency" .uint64 <| .cons "max_outstanding_messages" .uint64 <|
      .cons "max_outstanding_bytes" .uint64 <| .cons "max_messages_per_second" .uint32 .nil)
    (fun (concurrency, maxOutstandingMessages, maxOutstandingBytes, maxMessagesPerSecond, ()) =>
      { concurrency, maxOutstandingMessages, maxOutstandingBytes, maxMessagesPerSecond })
    (fun c =>
      (c.concurrency, c.maxOutstandingMessages, c.maxOutstandingBytes, c.maxMessagesPerSecond, ()))

/-- The section of the consuming job. -/
def ConsumerConfig.setting : Setting ConsumerConfig :=
  .record
    (.cons "schedule" .text <| .cons "running_duration_per_batch_seconds" .uint64 <|
      .cons "handle_timeout_seconds" .uint64 .nil)
    (fun (schedule, runningSeconds, handleTimeoutSeconds, ()) =>
      { schedule, runningSeconds, handleTimeoutSeconds })
    (fun c => (c.schedule, c.runningSeconds, c.handleTimeoutSeconds, ()))

/-- The section of the scheduler. -/
def SchedulerConfig.setting : Setting SchedulerConfig :=
  .record
    (.cons "timezone" .text <| .cons "stop_grace_seconds" .uint64 .nil)
    (fun (timezone, stopGraceSeconds, ()) => { timezone, stopGraceSeconds })
    (fun c => (c.timezone, c.stopGraceSeconds, ()))

/-- The section of one scan. -/
def WatcherConfig.setting : Setting WatcherConfig :=
  .record
    (.cons "schedule" .text <| .cons "timeout_seconds" .uint64 .nil)
    (fun (schedule, timeoutSeconds, ()) => { schedule, timeoutSeconds })
    (fun c => (c.schedule, c.timeoutSeconds, ()))

/-- The section of all scans. -/
def WatchersConfig.setting : Setting WatchersConfig :=
  .record
    (.cons "feature_stale" WatcherConfig.setting <|
      .cons "experiment_running" WatcherConfig.setting <|
      .cons "mau_count" WatcherConfig.setting <| .cons "stale_threshold_seconds" .int64 <|
      .cons "mau_reference_timezone" .text .nil)
    (fun (featureStale, experimentRunning, mauCount, staleThresholdSeconds, mauReferenceTimezone,
        ()) =>
      { featureStale, experimentRunning, mauCount, staleThresholdSeconds, mauReferenceTimezone })
    (fun c =>
      (c.featureStale, c.experimentRunning, c.mauCount, c.staleThresholdSeconds,
        c.mauReferenceTimezone, ()))

/-- The section of delivery to webhooks. -/
def SlackConfig.setting : Setting SlackConfig :=
  .record (.cons "request_timeout_seconds" .uint64 .nil)
    (fun (requestTimeoutSeconds, ()) => { requestTimeoutSeconds })
    (fun c => (c.requestTimeoutSeconds, ()))

namespace Config

/-- All settings. -/
def setting : Setting Config :=
  .record
    (.cons "log_level" .text <| .cons "log_format" LogFormat.setting <| .cons "web_url" .text <|
      .cons "metrics" MetricsConfig.setting <| .cons "puller" PullerConfig.setting <|
      .cons "consumer" ConsumerConfig.setting <| .cons "scheduler" SchedulerConfig.setting <|
      .cons "watchers" WatchersConfig.setting <| .cons "slack" SlackConfig.setting .nil)
    (fun (logLevel, logFormat, webUrl, metrics, puller, consumer, scheduler, watchers, slack, ()) =>
      { logLevel, logFormat, webUrl, metrics, puller, consumer, scheduler, watchers, slack })
    (fun c =>
      (c.logLevel, c.logFormat, c.webUrl, c.metrics, c.puller, c.consumer, c.scheduler, c.watchers,
        c.slack, ()))

/-- The settings as a record. -/
def toJson (c : Config) : Json := setting.write c

/-- Reads settings from trees laid one over the other, the first of them over the defaults. -/
def ofTrees (strict : Bool) (layers : List ConfigTree) : Except ConfigFault Config :=
  setting.read strict (layers.foldl ConfigTree.join (.ofJson (toJson {})))

end Config

end FlagAlerts
