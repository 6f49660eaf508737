import FlagAlerts.Calendar.Month
import FlagAlerts.Watch.Scan

/-!
# The usage of the month before

Every environment of every project that is not disabled gets a report of its usage in the month
before the current one, even if there was none.
-/

namespace FlagAlerts.Watch

open FlagAlerts.Calendar

/-- Reports the usage of an environment in a month. -/
def visitUsage (p : Platform) (sender : Sender) (newId : String) (month : Month)
    (environment : Environment) : Work (Except ScanError Unit) := do
  match ← p.usageOf environment.id month.key with
  | .error e => pure (.error (.getUsage environment.id month.key e))
  | .ok count =>
    report sender .monthlyUsage
      (eventFor newId environment .mauCount
        (.mauCount count (Int32.ofInt month.year) (UInt32.ofNat month.month)))

/-- Reports the usage of every environment of the projects. -/
def visitProjects (p : Platform) (sender : Sender) (newId : String) (month : Month) :
    List Project → Failures → Work Failures
  | [], failures => pure failures
  | project :: rest, failures => do
    match ← p.allEnvironments ⟨some project.id, some false⟩ with
    | .error e =>
      visitProjects p sender newId month rest
        (failures.add (.error (.listProjectEnvironments project.id e)))
    | .ok environments => do
      let failures ← visitAll (visitUsage p sender newId month) environments failures
      visitProjects p sender newId month rest failures

/-- Reports the usage of every environment in the month before an instant. -/
def scanUsage (p : Platform) (sender : Sender) (newId : String) (z : Zone) (now : Int) :
    Work (Except ScanFailure Unit) := do
  match ← p.allProjects with
  | .error e => pure (.error ⟨.listProjects e, 1⟩)
  | .ok projects => do
    let failures ← visitProjects p sender newId (.lastBefore z now)
      (projects.filter fun project => !project.disabled) {}
    return failures.result

end FlagAlerts.Watch
