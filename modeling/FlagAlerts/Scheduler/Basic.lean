import FlagAlerts.Health
import FlagAlerts.Scheduler.Error
import FlagAlerts.Scheduler.Loop

/-!
# The scheduler

Jobs are added while the scheduler is idle, each under a name of its own. Starting it hands every
job to a loop. Stopping it is for good, and is done once all loops have finished.
-/

namespace FlagAlerts

open FlagAlerts.Calendar

/-- Where the scheduler is in its life. -/
inductive SchedulerStage where
  | idle
  | running
  | stopped
  deriving Repr, DecidableEq, Inhabited

/-- The scheduler. -/
structure Scheduler where
  zone : Zone
  /-- How long runs may go on after a stop, in milliseconds. -/
  grace : Nat
  stage : SchedulerStage := .idle
  /-- The jobs that wait for the start. -/
  jobs : List (String × Schedule) := []
  loops : List JobLoop := []
  health : HealthFlag := ⟨"scheduler", .healthy⟩
  clock : Clock
  deriving Repr, Inhabited

namespace Scheduler

/-- An idle scheduler without jobs. -/
def new (zone : Zone) (grace : Nat) (wall : Int) : Scheduler where
  zone := zone
  grace := grace
  clock := { wall := wall }

/-- Fails unless the scheduler is idle. -/
def requireIdle (s : Scheduler) : Except SchedulerError Unit :=
  match s.stage with
  | .idle => .ok ()
  | .running => .error .alreadyStarted
  | .stopped => .error .stopped

/-- Adds a job with a schedule. -/
def add (s : Scheduler) (job expression : String) : Except SchedulerError Scheduler := do
  s.requireIdle
  if s.jobs.any (·.1 == job) then throw (.duplicateJob job)
  match Schedule.parse? expression with
  | none => throw (.invalidSchedule job expression)
  | some schedule => return { s with jobs := s.jobs ++ [(job, schedule)] }

/-- Hands every job to a loop. -/
def start (s : Scheduler) : Except SchedulerError Scheduler := do
  s.requireIdle
  return { s with
    stage := .running
    jobs := []
    loops := s.jobs.map fun (job, schedule) =>
      { job := job, schedule := schedule, lastTime := s.clock.wall / 1000 } }

/-- Tells all loops to stop. -/
def stop (s : Scheduler) : Scheduler :=
  if s.stage = .stopped then s
  else { s with stage := .stopped, health := { s.health with status := .unhealthy } }

/-- Whether the scheduler was started and not stopped. -/
def isRunning (s : Scheduler) : Bool := s.stage == .running

/-- Whether a stop is done. -/
def isStopDone (s : Scheduler) : Bool := s.loops.all (·.phase == .finished)

/-- The next times of the jobs that wait for the start. -/
def upcoming (s : Scheduler) (count : Nat) : List (String × List Int) :=
  s.jobs.map fun (job, schedule) => (job, schedule.upcoming s.zone (s.clock.wall / 1000) count)

/-- The metrics that were counted. -/
def metrics (s : Scheduler) : List Metric := s.loops.flatMap (·.metrics)

/-- Something that happens to a scheduler. -/
inductive Action where
  | add (job expression : String)
  | start
  | stop
  | loop (place : Nat) (a : LoopAction)
  /-- Time goes by on the timer, and on the wall. -/
  | pass (ms : Nat) (wall : Nat)
  deriving Repr, DecidableEq, Inhabited

/-- A loop takes an action. -/
def stepLoop? (s : Scheduler) (i : Nat) (a : LoopAction) : Option Scheduler := do
  let l ← s.loops[i]?
  let l ← l.step? s.zone s.grace (s.stage == .stopped) s.clock a
  return { s with loops := s.loops.set i l }

/-- The instants that loops wait for. -/
def wakeTimes (s : Scheduler) : List Nat := s.loops.filterMap JobLoop.wakeTime?

/-- The scheduler after an action; none if the action is refused or not possible. Time does not go
past an instant that a loop waits for. -/
def step? (s : Scheduler) : Action → Option Scheduler
  | .add job expression => (s.add job expression).toOption
  | .start => s.start.toOption
  | .stop => some s.stop
  | .loop i a => s.stepLoop? i a
  | .pass ms wall =>
    if s.wakeTimes.all (s.clock.timer + ms ≤ ·) then
      some { s with clock := ⟨s.clock.timer + ms, s.clock.wall + wall⟩ }
    else none

/-- The states that a scheduler can get into from a given one. -/
inductive Reachable (start : Scheduler) : Scheduler → Prop where
  | initial : Reachable start start
  | step {s t : Scheduler} (a : Action) (before : Reachable start s) (next : s.step? a = some t) :
    Reachable start t

end Scheduler

end FlagAlerts
