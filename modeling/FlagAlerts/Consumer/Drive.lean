import FlagAlerts.Consumer.Step
import FlagAlerts.Intake.Drive

/-!
# A consumer on its own clock

Runs of the consumer and workers are prompt. The runs go on as far as they can, then the workers do,
and so on in turn; time goes by only while all of them wait.
-/

namespace FlagAlerts.Consumer

/-- The first run that can take a step takes it. -/
def pollOnce? (c : Consumer) : Option Consumer := (List.range c.runs.length).findSome? c.poll?

/-- The runs take at most so many steps. -/
def pollUpTo : Nat → Consumer → Consumer
  | 0, c => c
  | fuel + 1, c =>
    match c.pollOnce? with
    | some c => pollUpTo fuel c
    | none => c

/-- A bound on the steps that runs can take while no worker does. -/
def pollBound (c : Consumer) : Nat :=
  4 * (c.runs.length + total (c.intake.runs.map (·.channel.length)) + 1)

/-- Runs and workers take turns, at most so often, until all of them wait. -/
def settleUpTo : Nat → Consumer → Consumer
  | 0, c => c
  | fuel + 1, c =>
    let c := c.pollUpTo c.pollBound
    let c := { c with intake := c.intake.settleDown }
    if c.pollOnce?.isSome then settleUpTo fuel c else c

/-- Runs and workers go on until all of them wait. -/
def settleDown (c : Consumer) : Consumer :=
  c.settleUpTo (c.intake.workBound + c.pollBound)

/-- The next instant at which something can happen, no later than the given one. -/
def nextInstant (c : Consumer) (deadline : Nat) : Nat :=
  match (c.wakeTimes.filter (c.intake.now < ·)).min? with
  | some t => min t (c.intake.nextInstant deadline)
  | none => c.intake.nextInstant deadline

/-- Whether a run has ended. -/
def isFinished (c : Consumer) (i : Nat) : Bool :=
  c.runs[i]?.all fun run => run.phase == .finished || run.phase == .aborted

/-- What is to happen from outside, each at an instant. -/
abbrev Plan := List (Nat × Action)

/-- Takes the actions whose instant has come, in order. -/
def follow (c : Consumer) : Plan → Consumer × Plan
  | [] => (c, [])
  | (t, a) :: plan =>
    if t ≤ c.intake.now then follow ((c.step? a).getD c) plan
    else
      let (c, plan) := follow c plan
      (c, (t, a) :: plan)

/-- The first instant of a plan. -/
def Plan.next? (plan : Plan) : Option Nat := (plan.map (·.1)).min?

/-- The consumer goes on with a plan until something holds, though not past an instant. -/
def goUpTo (isDone : Consumer → Bool) (deadline : Nat) : Nat → Plan → Consumer → Consumer × Plan
  | 0, plan, c => (c, plan)
  | fuel + 1, plan, c =>
    let (c, plan) := c.follow plan
    let c := c.settleDown
    if isDone c || deadline ≤ c.intake.now then (c, plan)
    else
      let instant := min (c.nextInstant deadline) ((Plan.next? plan).getD deadline)
      goUpTo isDone deadline fuel plan { c with intake := c.intake.passTo instant }

/-- A run from its start to its end, with a plan of what happens meanwhile; gives what is left of
the plan. The run cannot take longer than its window and the handling of one message. -/
def runToEnd (c : Consumer) (longest : Nat) (plan : Plan) : Consumer × Plan :=
  let i := c.runs.length
  let deadline := c.intake.now + c.window + longest
  c.start.goUpTo (·.isFinished i) deadline (deadline - c.intake.now + 1) plan

end FlagAlerts.Consumer
