import FlagAlerts.Watch.Scan

/-!
# Feature flags that are not used any more

A flag is stale if it was last used more than a threshold ago. A flag without a time of last use is
never stale, and neither is one that is off and has nothing to serve then.

Instants are 64-bit numbers of seconds, and so is the age of a flag, their difference: what does not
fit 64 bits is cut off.
-/

namespace FlagAlerts.Watch

/-- The seconds from an instant of use up to now, as they are reckoned in 64 bits. -/
def age (now : Int) (used : Int64) : Int := (Int64.ofInt now - used).toInt

/-- Whether a flag is stale at an instant. -/
def isStale (f : Feature) (now thresholdSeconds : Int) : Bool :=
  !f.isRetired && f.lastUsedAt.any fun used => age now used > thresholdSeconds

/-- Reports the stale flags of an environment, if there are any. -/
def visitFeatures (p : Platform) (sender : Sender) (newId : String) (now thresholdSeconds : Int)
    (environment : Environment) : Work (Except ScanError Unit) := do
  match ← p.allFeatures environment.id with
  | .error e => pure (.error (.listFeatures environment.id e))
  | .ok features =>
    match features.filter fun f => !f.archived && isStale f now thresholdSeconds with
    | [] => pure (.ok ())
    | stale =>
      report sender .staleFeatures (eventFor newId environment .featureStale (.featureStale stale))

/-- Reports the stale flags of every environment. -/
def scanFeatures (p : Platform) (sender : Sender) (newId : String) (now thresholdSeconds : Int) :
    Work (Except ScanFailure Unit) :=
  scanEnvironments p (visitFeatures p sender newId now thresholdSeconds)

end FlagAlerts.Watch
