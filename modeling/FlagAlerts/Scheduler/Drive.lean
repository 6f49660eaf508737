import FlagAlerts.Numbers
import FlagAlerts.Scheduler.Basic

/-!
# A scheduler on its own clock

Loops and runs are prompt, and time goes by only while all of them wait. Meanwhile the wall clock
stands still, so that a loop sleeps longer for every further time of its schedule. What the runs of
a job do is written in a script, whose last entry holds for all further runs.
-/

namespace FlagAlerts

/-- What a run does. -/
inductive Behaviour where
  | succeed
  | fail
  | crash
  /-- Succeeds when the scheduler stops. -/
  | wait
  | hang
  deriving Repr, DecidableEq, Inhabited

namespace Behaviour

/-- How a run ends now, if it does. -/
def end? (isStopped : Bool) : Behaviour → Option RunEnd
  | .succeed => some .succeeded
  | .fail => some .failed
  | .crash => some .crashed
  | .wait => if isStopped then some .succeeded else none
  | .hang => none

end Behaviour

/-- What the runs of each job do. -/
abbrev Scripts := List (String × List Behaviour)

namespace Scripts

/-- What a run of a job does. -/
def behaviour (scripts : Scripts) (job : String) (number : Nat) : Behaviour :=
  let script := (scripts.lookup job).getD []
  (script[number]?.or script.getLast?).getD .succeed

end Scripts

namespace Scheduler

/-- What a loop and its runs can do now, in the order in which they do it. -/
def ready (scripts : Scripts) (isStopped : Bool) (l : JobLoop) : List LoopAction :=
  (l.runs.flatMap fun run =>
    if run.hasBegun then
      match (scripts.behaviour l.job run.number).end? isStopped with
      | some how => [.endRun run.number how]
      | none => []
    else [.beginRun run.number]) ++
  [.plan, .notice, .close, .fire]

/-- The first loop that can do something does it. -/
def workOnce? (scripts : Scripts) (s : Scheduler) : Option Scheduler :=
  (List.range s.loops.length).findSome? fun i => do
    let l ← s.loops[i]?
    (ready scripts (s.stage == .stopped) l).findSome? (s.stepLoop? i)

/-- The loops and their runs do at most so many things. -/
def workUpTo (scripts : Scripts) : Nat → Scheduler → Scheduler
  | 0, s => s
  | fuel + 1, s =>
    match s.workOnce? scripts with
    | some s => workUpTo scripts fuel s
    | none => s

/-- A bound on what loops and runs can do while no time goes by. -/
def workBound (s : Scheduler) : Nat :=
  8 * total (s.loops.map fun l => l.runs.length + 2)

/-- Loops and runs go on until all of them wait. -/
def settleDown (scripts : Scripts) (s : Scheduler) : Scheduler := s.workUpTo scripts s.workBound

/-- Time goes by up to the next instant that a loop waits for, though not past the given one. -/
def passOn (s : Scheduler) (deadline : Nat) : Scheduler :=
  let instant := match (s.wakeTimes.filter (s.clock.timer < ·)).min? with
    | some t => min t deadline
    | none => deadline
  { s with clock := { s.clock with timer := max s.clock.timer instant } }

/-- The scheduler goes on until something holds, though not past an instant. -/
def goUpTo (scripts : Scripts) (isDone : Scheduler → Bool) (deadline : Nat) :
    Nat → Scheduler → Bool × Scheduler
  | 0, s => (false, s)
  | fuel + 1, s =>
    let s := s.settleDown scripts
    if isDone s then (true, s)
    else if deadline ≤ s.clock.timer then (false, s)
    else goUpTo scripts isDone deadline fuel (s.passOn deadline)

/-- The scheduler goes on until something holds, for at most so many milliseconds; gives whether
it came to hold. -/
def goOn (scripts : Scripts) (s : Scheduler) (isDone : Scheduler → Bool) (ms : Nat) :
    Bool × Scheduler :=
  s.goUpTo scripts isDone (s.clock.timer + ms) (ms + 1)

/-- How many runs of a job have begun. -/
def begun (s : Scheduler) (job : String) : Nat := s.metrics.count (.jobStarted job)

/-- The runs of a job that succeeded, in order. -/
def succeeded (s : Scheduler) (job : String) : List Nat :=
  (s.loops.filter (·.job == job)).flatMap fun l =>
    (l.ended.filter (·.2 == .succeeded)).map (·.1)

end Scheduler

end FlagAlerts
