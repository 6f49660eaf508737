import FlagAlerts.Intake.Work

/-!
# Everything that can happen to an intake

The workers of all runs take steps in any order, mixed with what happens outside: messages arrive,
pulls fail, runs are started, cancelled, closed or abandoned, messages are received and settled,
and time goes by. Time does not go past an instant that a worker waits for.
-/

namespace FlagAlerts

/-- Something that happens to an intake. -/
inductive IntakeAction where
  | push (attributes : List (String × String)) (data : List UInt8)
  | failPull
  | start
  | cancel (run : Nat)
  /-- The receiver takes the first message of a channel. -/
  | receive (run : Nat)
  /-- The receiver settles a message. -/
  | settle (id : String) (isAcked : Bool)
  /-- The receiver closes a channel and hands back what is in it. -/
  | close (run : Nat)
  /-- Whoever started a run goes away without cancelling it. -/
  | abandon (run : Nat)
  /-- A worker takes a step. -/
  | work (worker : Nat)
  | pass (ms : Nat)
  deriving Repr, DecidableEq, Inhabited

namespace Intake

/-- A message arrives. -/
def push (s : Intake) (attributes : List (String × String)) (data : List UInt8) : Intake :=
  { s with queue := s.queue.push attributes data }.giveNotice

/-- One more pull will fail. -/
def failPull (s : Intake) : Intake := { s with queue := s.queue.pushFailure }

/-- A new run. -/
def start (s : Intake) : Intake :=
  { s with
    runs := s.runs ++ [{}]
    workers := s.workers ++
      List.replicate s.limits.workers
        { run := s.runs.length, retryDelay := firstRetryDelay } }

/-- Tells the workers of a run to leave. -/
def cancel (s : Intake) (r : Nat) : Intake := s.setRun r fun run => { run with isCancelled := true }

/-- The receiver takes the first message of a channel, if there is one. -/
def receive? (s : Intake) (r : Nat) : Option (BusMessage × Intake) := do
  let run ← s.runs[r]?
  match run.channel with
  | [] => none
  | m :: rest =>
    if run.isAbandoned then none
    else
      let s := { s with held := s.held ++ [m] }
      some (m, s.setRun r fun run => { run with channel := rest })

/-- The receiver settles a message that it has. -/
def settleHeld? (s : Intake) (id : String) (isAcked : Bool) : Option Intake := do
  let m ← s.held.find? (·.id == id)
  return { s with held := s.held.eraseP (·.id == id) }.settle m isAcked

/-- Closes a channel and hands back what is in it. -/
def close (s : Intake) (r : Nat) : Intake :=
  match s.runs[r]? with
  | some run =>
    (s.handBack run.channel).setRun r fun run => { run with channel := [], isClosed := true }
  | none => s

/-- The channel of an abandoned run is closed but keeps its messages as long as it has workers. -/
def abandon (s : Intake) (r : Nat) : Intake :=
  (s.setRun r fun run => { run with isClosed := true, isAbandoned := true }).sweep r

/-- The instants that workers wait for. -/
def wakeTimes (s : Intake) : List Nat := s.workers.filterMap fun w => s.wakeTime? w.phase

/-- Time goes by, though not past an instant that a worker waits for. -/
def pass? (s : Intake) (ms : Nat) : Option Intake :=
  if s.wakeTimes.all (s.now + ms ≤ ·) then some { s with now := s.now + ms } else none

/-- The intake after an action; none if the action is not possible. -/
def step? (s : Intake) : IntakeAction → Option Intake
  | .push attributes data => some (s.push attributes data)
  | .failPull => some s.failPull
  | .start => some s.start
  | .cancel r => if s.runs[r]?.any (!·.isAbandoned) then some (s.cancel r) else none
  | .receive r => (s.receive? r).map (·.2)
  | .settle id isAcked => s.settleHeld? id isAcked
  | .close r => if s.runs[r]?.any (!·.isAbandoned) then some (s.close r) else none
  | .abandon r => if s.runs[r]?.any (!·.isAbandoned) then some (s.abandon r) else none
  | .work i => s.work? i
  | .pass ms => s.pass? ms

/-- The states that an intake with the given limits and queue can get into. -/
inductive Reachable (limits : Limits) (queue : BusQueue) : Intake → Prop where
  | initial : Reachable limits queue (.ofLimits limits queue)
  | step {s t : Intake} (a : IntakeAction) (before : Reachable limits queue s)
      (next : s.step? a = some t) : Reachable limits queue t

end Intake

end FlagAlerts
