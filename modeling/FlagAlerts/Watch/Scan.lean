import FlagAlerts.Delivery.Sender
import FlagAlerts.Watch.Error

/-!
# Scanning environments

A scan visits environments one after another and goes on when one fails. A job gives it a budget of
time and stops it when it is cancelled.
-/

namespace FlagAlerts.Watch

variable {α : Type}

/-- Visits things one after another, adding up the failures. -/
def visitAll (visit : α → Work (Except ScanError Unit)) : List α → Failures → Work Failures
  | [], failures => pure failures
  | a :: rest, failures => do
    let result ← visit a
    visitAll visit rest (failures.add result)

/-- A scan of all environments that are not archived. -/
def scanEnvironments (p : Platform) (visit : Environment → Work (Except ScanError Unit)) :
    Work (Except ScanFailure Unit) := do
  match ← p.allEnvironments ⟨none, some false⟩ with
  | .error e => pure (.error ⟨.listEnvironments e, 1⟩)
  | .ok environments => do
    let failures ← visitAll visit environments {}
    return failures.result

/-- An event about one environment; only changes are told across environments. -/
def eventFor (id : String) (environment : Environment) (sourceType : SourceType)
    (body : NotificationBody) : NotificationEvent where
  id := id
  environmentId := environment.id
  sourceType := sourceType
  notification := ⟨environment.id, environment.urlCode, body⟩
  isAdminEvent := false

/-- Sends a report about an environment. -/
def report (sender : Sender) (what : Report) (event : NotificationEvent) :
    Work (Except ScanError Unit) := do
  let result ← Sender.submit sender event
  return result.mapError (.send what event.environmentId)

/-- When a job is cancelled: before it starts, at an instant, or never. -/
inductive Cancel where
  | never
  | atStart
  | after (ms : Nat)
  deriving Repr, DecidableEq, Inhabited

/-- A scan with a budget of seconds, stopped when it is cancelled. -/
def bounded (job : String) (seconds : Nat) (cancel : Cancel)
    (scan : Work (Except ScanFailure Unit)) : Work (Except ScanFailure Unit) :=
  let timed : Work (Except ScanFailure Unit) := do
    match ← scan.within (seconds * 1000) with
    | some result => pure result
    | none => pure (.error ⟨.timedOut job seconds, 1⟩)
  match cancel with
  | .never => timed
  | .atStart => pure (.error ⟨.cancelled job, 1⟩)
  | .after ms => do
    match ← timed.until_ ms with
    | some result => pure result
    | none => pure (.error ⟨.cancelled job, 1⟩)

end FlagAlerts.Watch
