import FlagAlerts.Config.Validate
import FlagAlerts.Watch.MonthlyUsage
import FlagAlerts.Watch.RunningExperiments
import FlagAlerts.Watch.StaleFeatures

/-!
# Watchers

A watcher is a regular scan together with the settings of its job.
-/

namespace FlagAlerts

/-- A regular scan. -/
inductive Watcher where
  | featureStale
  | experimentRunning
  | mauCount
  deriving Repr, DecidableEq, Inhabited

/-- A scan that is ready to run as a job. -/
structure WatchJob where
  name : String
  timeoutSeconds : Nat
  scan : (now : Int) → Work (Except ScanFailure Unit)

namespace WatchJob

/-- Runs the scan with the time that the job has. -/
def run (j : WatchJob) (cancel : Watch.Cancel) (now : Int) : Work (Except ScanFailure Unit) :=
  Watch.bounded j.name j.timeoutSeconds cancel (j.scan now)

end WatchJob

namespace Watcher

/-- The job of a watcher. Only the watcher of usage needs a time zone, which may be unknown. -/
def job? (c : WatchersConfig) (p : Platform) (sender : Sender) (newId : String) :
    Watcher → Except ConfigError WatchJob
  | .featureStale =>
    .ok ⟨featureStaleJob, c.featureStale.timeoutSeconds.toNat, fun now =>
      Watch.scanFeatures p sender newId now c.staleThresholdSeconds.toInt⟩
  | .experimentRunning =>
    .ok ⟨experimentRunningJob, c.experimentRunning.timeoutSeconds.toNat, fun _ =>
      Watch.scanExperiments p sender newId⟩
  | .mauCount => do
    let z ← Config.zone c.mauReferenceTimezone
    return ⟨mauCountJob, c.mauCount.timeoutSeconds.toNat, fun now =>
      Watch.scanUsage p sender newId z now⟩

/-- The watcher of usage has its job just if the time zone is known. -/
theorem job?_mauCount_eq_ok {c : WatchersConfig} {p : Platform} {sender : Sender} {newId : String}
    {job : WatchJob} :
    job? c p sender newId .mauCount = .ok job ↔
      ∃ z, Config.zone c.mauReferenceTimezone = .ok z ∧
        job = ⟨mauCountJob, c.mauCount.timeoutSeconds.toNat, fun now =>
          Watch.scanUsage p sender newId z now⟩ := by
  rw [job?]
  cases Config.zone c.mauReferenceTimezone with
  | error e => simp [bind, Except.bind]
  | ok z => simp [bind, Except.bind, pure, Except.pure, eq_comm]

end Watcher

end FlagAlerts
