import FlagAlerts.Calendar.ZoneNames
import FlagAlerts.Config.Basic
import FlagAlerts.Schedule.Basic
import FlagAlerts.Text.Blank
import FlagAlerts.Text.Quoted

/-!
# Checking settings

What no type can tell about settings: limits and times are positive, schedules can be read, and
time zones exist. The first fault in a fixed order is reported.
-/

namespace FlagAlerts

open FlagAlerts.Text FlagAlerts.Calendar

/-- The name of the job that consumes messages. -/
def domainEventJob : String := "domain_event_consumer"

/-- The name of the job that looks for stale feature flags. -/
def featureStaleJob : String := "feature_stale_watcher"

/-- The name of the job that looks for running experiments. -/
def experimentRunningJob : String := "experiment_running_watcher"

/-- The name of the job that reports monthly usage. -/
def mauCountJob : String := "mau_count_watcher"

/-- Why settings are refused. -/
inductive ConfigError where
  | noWebUrl
  | noConcurrency
  | noOutstanding
  | noMessageRate
  | noRunningTime
  | noHandleTimeout
  | noRequestTimeout
  | noScanTimeout (job : String)
  | noStaleThreshold
  | badSchedule (expression job : String)
  | unknownZone (name : String)
  deriving Repr, DecidableEq, Inhabited

namespace ConfigError

/-- What is wrong with settings other than an unknown time zone. -/
def reason : ConfigError → String
  | .noWebUrl => "web_url must be set"
  | .noConcurrency => "puller.concurrency must be at least 1"
  | .noOutstanding => "puller outstanding limits must be positive"
  | .noMessageRate => "puller.max_messages_per_second must be at least 1"
  | .noRunningTime => "consumer.running_duration_per_batch_seconds must be positive"
  | .noHandleTimeout => "consumer.handle_timeout_seconds must be positive"
  | .noRequestTimeout => "slack.request_timeout_seconds must be positive"
  | .noScanTimeout job => "timeout_seconds of " ++ job ++ " must be positive"
  | .noStaleThreshold => "watchers.stale_threshold_seconds must be positive"
  | .badSchedule expression job =>
    "invalid schedule " ++ quoted expression ++ " for " ++ job ++ ": "
  | .unknownZone name => quoted name

/-- The text of an error. -/
def message : ConfigError → String
  | .unknownZone name => "unknown time zone " ++ quoted name
  | e => "invalid configuration: " ++ e.reason

end ConfigError

namespace Config

/-- The jobs with their schedules. -/
def jobSchedules (c : Config) : List (String × String) :=
  [(domainEventJob, c.consumer.schedule), (featureStaleJob, c.watchers.featureStale.schedule),
    (experimentRunningJob, c.watchers.experimentRunning.schedule),
    (mauCountJob, c.watchers.mauCount.schedule)]

/-- The scans with their settings. -/
def scans (c : Config) : List (String × WatcherConfig) :=
  [(featureStaleJob, c.watchers.featureStale), (experimentRunningJob, c.watchers.experimentRunning),
    (mauCountJob, c.watchers.mauCount)]

/-- The zone of a name. -/
def zone (name : String) : Except ConfigError Zone :=
  (Zone.ofName? name).elim (.error (.unknownZone name)) .ok

/-- Fails with an error unless a condition holds. -/
def require (condition : Bool) (e : ConfigError) : Except ConfigError Unit :=
  if condition then .ok () else .error e

/-- Checks the flow control settings. -/
def validatePuller (c : PullerConfig) : Except ConfigError Unit := do
  require (c.concurrency != 0) .noConcurrency
  require (c.maxOutstandingMessages != 0 && c.maxOutstandingBytes != 0) .noOutstanding
  require (c.maxMessagesPerSecond != 0) .noMessageRate

/-- Checks all settings. -/
def validate (c : Config) : Except ConfigError Unit := do
  require (!(trim c.webUrl).isEmpty) .noWebUrl
  validatePuller c.puller
  require (c.consumer.runningSeconds != 0) .noRunningTime
  require (c.consumer.handleTimeoutSeconds != 0) .noHandleTimeout
  require (c.slack.requestTimeoutSeconds != 0) .noRequestTimeout
  c.scans.forM fun (job, w) => require (w.timeoutSeconds != 0) (.noScanTimeout job)
  require (c.watchers.staleThresholdSeconds.toInt > 0) .noStaleThreshold
  c.jobSchedules.forM fun (job, expression) =>
    require (Schedule.parse? expression).isSome (.badSchedule expression job)
  let _ ← zone c.scheduler.timezone
  let _ ← zone c.watchers.mauReferenceTimezone
  return ()

end Config

end FlagAlerts
