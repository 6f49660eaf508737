import FlagAlerts.Text.Quoted

/-!
# Why the scheduler refuses a request
-/

namespace FlagAlerts

open FlagAlerts.Text

/-- Why the scheduler refuses a request. -/
inductive SchedulerError where
  | invalidSchedule (job expression : String)
  | duplicateJob (job : String)
  | alreadyStarted
  | stopped
  deriving Repr, DecidableEq, Inhabited

namespace SchedulerError

/-- The text of an error. -/
def message : SchedulerError → String
  | .invalidSchedule job expression =>
    "invalid cron expression " ++ quoted expression ++ " for job " ++ job ++ ": "
  | .duplicateJob job => "job " ++ job ++ " is already registered"
  | .alreadyStarted => "scheduler has already been started"
  | .stopped => "scheduler has been stopped"

end SchedulerError

end FlagAlerts
