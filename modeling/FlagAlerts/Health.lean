/-!
# Health

The long-running parts of the service each have a flag that tells whether they are well. The
service is well if all of them are.
-/

namespace FlagAlerts

/-- Whether a part of the service is well. -/
inductive HealthStatus where
  | healthy
  | unhealthy
  deriving Repr, DecidableEq, Inhabited

namespace HealthStatus

/-- The status of a part that is well or not. -/
def ofBool : Bool → HealthStatus
  | true => .healthy
  | false => .unhealthy

/-- The word for a status. -/
def label : HealthStatus → String
  | .healthy => "healthy"
  | .unhealthy => "unhealthy"

end HealthStatus

/-- The flag of one part of the service. -/
structure HealthFlag where
  name : String
  status : HealthStatus := .healthy
  deriving Repr, DecidableEq, Inhabited

/-- The flags of all parts of the service. -/
structure HealthChecks where
  flags : List HealthFlag := []
  deriving Repr, DecidableEq, Inhabited

namespace HealthChecks

/-- Flags with the given names, all healthy. -/
def ofNames (names : List String) : HealthChecks := ⟨names.map fun name => ⟨name, .healthy⟩⟩

/-- Sets the flag at a place. -/
def set (c : HealthChecks) (place : Nat) (status : HealthStatus) : HealthChecks :=
  ⟨c.flags.modify place fun f => { f with status := status }⟩

/-- Healthy if every flag is. -/
def status (c : HealthChecks) : HealthStatus := .ofBool (c.flags.all (·.status == .healthy))

end HealthChecks

end FlagAlerts
