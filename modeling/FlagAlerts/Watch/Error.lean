import FlagAlerts.Delivery.Error

/-!
# Why a scan fails

A scan goes on when it fails for one environment, and ends with its last failure.
-/

namespace FlagAlerts

open FlagAlerts.Text

/-- What a scan sends for an environment. -/
inductive Report where
  | staleFeatures
  | runningExperiments
  | monthlyUsage
  deriving Repr, DecidableEq, Inhabited

/-- The words for a report. -/
def Report.words : Report → String
  | .staleFeatures => "stale features"
  | .runningExperiments => "running experiments"
  | .monthlyUsage => "MAU count"

/-- Why a scan fails, for all environments or for one. -/
inductive ScanError where
  | listEnvironments (source : StoreError)
  | listProjects (source : StoreError)
  | listProjectEnvironments (projectId : String) (source : StoreError)
  | listFeatures (environmentId : String) (source : StoreError)
  | listExperiments (environmentId : String) (source : StoreError)
  | getUsage (environmentId month : String) (source : StoreError)
  | send (report : Report) (environmentId : String) (source : SendError)
  | timedOut (job : String) (seconds : Nat)
  | cancelled (job : String)
  deriving Repr, DecidableEq, Inhabited

namespace ScanError

/-- The texts of an error and of its sources, outermost first. -/
def chain : ScanError → List String
  | .listEnvironments source => ["failed to list environments", source.message]
  | .listProjects source => ["failed to list projects", source.message]
  | .listProjectEnvironments id source =>
    ["failed to list environments of project " ++ id, source.message]
  | .listFeatures id source => ["failed to list features of " ++ id, source.message]
  | .listExperiments id source => ["failed to list experiments of " ++ id, source.message]
  | .getUsage id month source =>
    ["failed to get MAU count of " ++ id ++ " for " ++ month, source.message]
  | .send report id source => ("failed to send " ++ report.words ++ " of " ++ id) :: source.chain
  | .timedOut job seconds => [job ++ " timed out after " ++ secondsText seconds]
  | .cancelled job => [job ++ " was cancelled"]

end ScanError

/-- The failures of a scan: how many there were, and the last of them. -/
structure Failures where
  count : Nat := 0
  last : Option ScanError := none
  deriving Repr, DecidableEq, Inhabited

/-- The failure of a whole scan: one error, or the last of several. -/
structure ScanFailure where
  error : ScanError
  count : Nat := 1
  deriving Repr, DecidableEq, Inhabited

/-- The text of a failure with those of its sources. -/
def ScanFailure.message (f : ScanFailure) : String :=
  ": ".intercalate
    ((if f.count > 1 then [decimal f.count ++ " environments failed"] else []) ++ f.error.chain)

namespace Failures

/-- Adds the failure of one environment. -/
def add (f : Failures) : Except ScanError Unit → Failures
  | .ok () => f
  | .error e => ⟨f.count + 1, some e⟩

/-- The result of a scan with these failures. -/
def result (f : Failures) : Except ScanFailure Unit :=
  match f.last with
  | none => .ok ()
  | some e => .error ⟨e, f.count⟩

end Failures

end FlagAlerts
