import FlagAlerts.Watch.Scan

/-!
# Experiments that are still running
-/

namespace FlagAlerts.Watch

/-- Reports the running experiments of an environment, if there are any. -/
def visitExperiments (p : Platform) (sender : Sender) (newId : String) (environment : Environment) :
    Work (Except ScanError Unit) := do
  match ← p.allRunningExperiments environment.id with
  | .error e => pure (.error (.listExperiments environment.id e))
  | .ok [] => pure (.ok ())
  | .ok experiments =>
    report sender .runningExperiments
      (eventFor newId environment .experimentRunning (.experimentRunning experiments))

/-- Reports the running experiments of every environment. -/
def scanExperiments (p : Platform) (sender : Sender) (newId : String) :
    Work (Except ScanFailure Unit) :=
  scanEnvironments p (visitExperiments p sender newId)

end FlagAlerts.Watch
