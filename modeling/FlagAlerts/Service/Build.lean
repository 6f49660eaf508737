import FlagAlerts.Consumer.Step
import FlagAlerts.Scheduler.Basic
import FlagAlerts.Watch.Watcher

/-!
# Building the service

The service is built from its settings, the stores of the platform, notifiers and a subscription to
the bus. All settings are checked first; then every part is set up, the jobs are added to the
scheduler under their schedules, the endpoint for metrics and health is opened, and the scheduler is
started. Building may fail at any of these steps, and what was done before stays done.
-/

namespace FlagAlerts

/-- Why the service cannot be built. -/
inductive BuildError where
  | config (e : ConfigError)
  | intake (e : SetupError)
  | scheduler (e : SchedulerError)
  deriving Repr, DecidableEq, Inhabited

/-- Something that is done while the service is built. -/
inductive SetupAct where
  /-- A job is added to the scheduler under its schedule. -/
  | registered (job expression : String)
  /-- The endpoint is opened, and a task serves it. -/
  | opened (address : SocketAddress)
  /-- A loop is started for a job. -/
  | started (job : String)
  deriving Repr, DecidableEq, Inhabited

/-- A part of building the service, which may fail. -/
abbrev Setup (α : Type) := ExceptT BuildError (Timed SetupAct) α

namespace Setup

variable {ε α : Type}

/-- A result that may be a failure. -/
def given (e : ε → BuildError) (result : Except ε α) : Setup α :=
  ExceptT.mk (pure (result.mapError e))

/-- Does one thing. -/
def tell (a : SetupAct) : Setup Unit := ExceptT.lift (Timed.tell a)

end Setup

/-- Whether the endpoint for metrics and health is opened. It is not if the machine has no such
address, and the service goes on without it. -/
def MetricsConfig.opens (c : MetricsConfig) : Bool := c.enabled && c.listenAddress.isLocal

/-- A scan that goes on as a run of a job. -/
structure WatchRun where
  /-- The place of the job's loop. -/
  place : Nat
  /-- The number of the run. -/
  number : Nat
  startedAt : Nat
  work : Work (Except ScanFailure Unit)

/-- The service. -/
structure Service where
  scheduler : Scheduler
  consumer : Consumer
  /-- The scans, in the order of their loops, which come after that of the consumer. -/
  watchJobs : List WatchJob
  watchRuns : List WatchRun := []
  /-- What scans did that have ended, with the instants. -/
  watchEffects : List (Nat × Effect) := []
  /-- Where metrics and health can be asked for. -/
  endpoint : Option SocketAddress := none

namespace Service

/-- The scans in the order of their jobs. -/
def watchers : List Watcher := [.featureStale, .experimentRunning, .mauCount]

/-- Adds a job with its schedule. -/
def addJob (s : Scheduler) (job expression : String) : Setup Scheduler := do
  let s ← .given .scheduler (s.add job expression)
  Setup.tell (.registered job expression)
  return s

/-- Adds the job of the consumer and those of the watchers, each with the schedule in its own
settings. -/
def addJobs (c : Config) (s : Scheduler) : Setup Scheduler := do
  let s ← addJob s domainEventJob c.consumer.schedule
  let s ← addJob s featureStaleJob c.watchers.featureStale.schedule
  let s ← addJob s experimentRunningJob c.watchers.experimentRunning.schedule
  addJob s mauCountJob c.watchers.mauCount.schedule

/-- Opens the endpoint, unless metrics go elsewhere. -/
def openEndpoint (c : MetricsConfig) (elsewhere : Bool) : Setup (Option SocketAddress) :=
  if !elsewhere && c.opens then do
    Setup.tell (.opened c.listenAddress)
    return some c.listenAddress
  else return none

/-- Starts the loops of all jobs. -/
def startLoops (s : Scheduler) : Setup Scheduler := do
  let s ← .given .scheduler s.start
  s.loops.forM fun l => Setup.tell (.started l.job)
  return s

/-- Builds the service at a time of the clock on the wall, in milliseconds. -/
def build (c : Config) (p : Platform) (notifiers : List Notifier) (elsewhere : Bool)
    (queue : BusQueue) (newId : String) (wall : Int) : Setup Service := do
  Setup.given .config c.validate
  let sender := Sender.overNotifiers p notifiers
  let limits ← .given .intake (Limits.ofConfig? c.puller)
  let watchJobs ← .given .config (watchers.mapM (Watcher.job? c.watchers p sender newId))
  let zone ← .given .config (Config.zone c.scheduler.timezone)
  let idle := Scheduler.new zone (c.scheduler.stopGraceSeconds.toNat * 1000) wall
  let scheduler ← addJobs c idle
  let endpoint ← openEndpoint c.metrics elsewhere
  let scheduler ← startLoops scheduler
  return {
    scheduler := scheduler
    consumer := {
      intake := .ofLimits limits queue
      handler := .ofConfig c.consumer p sender newId
      window := c.consumer.runningSeconds.toNat * 1000 }
    watchJobs := watchJobs
    endpoint := endpoint }

/-- A message arrives on the bus. -/
def push (s : Service) (attributes : List (String × String)) (data : List UInt8) : Service :=
  { s with consumer := { s.consumer with intake := s.consumer.intake.push attributes data } }

/-- The health of the parts of the service. -/
def health (s : Service) : HealthChecks := ⟨[s.scheduler.health, s.consumer.intake.health]⟩

/-- What was done, in the order of time, for messages and by scans that are over. -/
def effects (s : Service) : List Effect :=
  let log := s.consumer.runs.flatMap (·.effects) ++ s.watchEffects
  (log.mergeSort fun a b => a.1 ≤ b.1).map (·.2)

end Service

end FlagAlerts
