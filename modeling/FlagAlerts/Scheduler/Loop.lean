import FlagAlerts.Effect
import FlagAlerts.Schedule.Next

/-!
# The loop of a job

Every job has a loop that sleeps until the next time of the job's schedule and then starts a run.
Runs may overlap. When the scheduler stops, the loop gives its runs a time of grace and aborts those
that are still going then. A loop whose schedule has no further time waits for its last runs.

The beginning of a run is counted, and so is its end, however it comes about.
-/

namespace FlagAlerts

open FlagAlerts.Calendar

/-- The time as it is known to sleepers, and as a clock on the wall shows it, which need not agree;
both in milliseconds. -/
structure Clock where
  timer : Nat := 0
  wall : Int
  deriving Repr, DecidableEq, Inhabited

/-- How a run ended. -/
inductive RunEnd where
  | succeeded
  | failed
  | crashed
  | aborted
  deriving Repr, DecidableEq, Inhabited

namespace RunEnd

/-- What an end counts as. -/
def outcome : RunEnd → Outcome
  | .succeeded => .success
  | _ => .fail

end RunEnd

/-- A run of a job. -/
structure JobRun where
  /-- The number of runs before this one. -/
  number : Nat
  hasBegun : Bool := false
  deriving Repr, DecidableEq, Inhabited

/-- What the loop of a job is doing. -/
inductive LoopPhase where
  /-- Looks for the next time of the schedule. -/
  | planning
  /-- Sleeps before a time of the schedule, in seconds, up to an instant of the timer. -/
  | sleeping (time : Int) (wake : Nat)
  /-- Has no further time and waits for its runs. -/
  | exhausted
  /-- Gives its runs the time of grace. -/
  | draining (deadline : Nat)
  | finished
  deriving Repr, DecidableEq, Inhabited

/-- The loop of a job. -/
structure JobLoop where
  job : String
  schedule : Schedule
  /-- No time up to this one, in seconds, starts a run any more. -/
  lastTime : Int
  phase : LoopPhase := .planning
  /-- The runs that have not ended. -/
  runs : List JobRun := []
  /-- The times at which runs were started, in order. -/
  fired : List Int := []
  /-- The runs that ended, in order. -/
  ended : List (Nat × RunEnd) := []
  metrics : List Metric := []
  deriving Repr, Inhabited

/-- What the loop of a job does, or one of its runs. -/
inductive LoopAction where
  | plan
  | fire
  /-- Sees that the scheduler stops. -/
  | notice
  /-- Ends, if its runs have, or aborts them after the time of grace. -/
  | close
  | beginRun (number : Nat)
  /-- A run ends by itself. -/
  | endRun (number : Nat) (how : RunEnd)
  deriving Repr, DecidableEq, Inhabited

namespace JobLoop

/-- Looks for the next time of the schedule. -/
def plan (l : JobLoop) (z : Zone) (c : Clock) : JobLoop :=
  match l.schedule.next? z (max l.lastTime (c.wall / 1000)) with
  | some time => { l with phase := .sleeping time (c.timer + (time * 1000 - c.wall).toNat) }
  | none => { l with phase := .exhausted }

/-- Starts a run. Whether the scheduler stops is looked at just before, in the same step: a loop waits
for nothing in between, so a stop that comes then cannot be told from one that comes right after the
start. What can be seen of a run starts with `beginRun`, which is possible after the stop as well. -/
def fire (l : JobLoop) (time : Int) : JobLoop :=
  { l with
    phase := .planning
    lastTime := time
    runs := l.runs ++ [{ number := l.fired.length }]
    fired := l.fired ++ [time] }

/-- The loop without a run that ended, which is counted. -/
def endRun (l : JobLoop) (number : Nat) (how : RunEnd) : JobLoop :=
  { l with
    runs := l.runs.filter (·.number != number)
    ended := l.ended ++ [(number, how)]
    metrics := l.metrics ++
      [.jobFinished l.job how.outcome, .jobDuration l.job how.outcome] }

/-- Aborts a run. One that has not begun leaves no trace. -/
def abortRun (l : JobLoop) (run : JobRun) : JobLoop :=
  if run.hasBegun then l.endRun run.number .aborted
  else { l with runs := l.runs.filter (·.number != run.number) }

/-- Aborts all runs. -/
def abortAll (l : JobLoop) : JobLoop := l.runs.foldl abortRun l

/-- The loop after an action; none if the action is not possible. -/
def step? (z : Zone) (grace : Nat) (isStopped : Bool) (c : Clock) (l : JobLoop) :
    LoopAction → Option JobLoop
  | .plan => if l.phase = .planning then some (l.plan z c) else none
  | .fire =>
    match l.phase with
    | .sleeping time wake => if !isStopped && wake ≤ c.timer then some (l.fire time) else none
    | _ => none
  | .notice =>
    match l.phase with
    | .sleeping .. =>
      if isStopped then
        some { l with phase := if l.runs.isEmpty then .finished else .draining (c.timer + grace) }
      else none
    | _ => none
  | .close =>
    match l.phase with
    | .exhausted => if l.runs.isEmpty then some { l with phase := .finished } else none
    | .draining deadline =>
      if l.runs.isEmpty then some { l with phase := .finished }
      else if deadline ≤ c.timer then some { l.abortAll with phase := .finished }
      else none
    | _ => none
  | .beginRun number =>
    if l.runs.any fun run => run.number == number && !run.hasBegun then
      some { l with
        runs := l.runs.map fun run =>
          if run.number == number then { run with hasBegun := true } else run
        metrics := l.metrics ++ [.jobStarted l.job] }
    else none
  | .endRun number how =>
    if how != .aborted && l.runs.any fun run => run.number == number && run.hasBegun then
      some (l.endRun number how)
    else none

/-- The instant that the loop waits for. -/
def wakeTime? (l : JobLoop) : Option Nat :=
  match l.phase with
  | .sleeping _ wake => some wake
  | .draining deadline => some deadline
  | _ => none

end JobLoop

end FlagAlerts
