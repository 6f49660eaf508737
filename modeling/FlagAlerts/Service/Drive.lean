import FlagAlerts.Consumer.Drive
import FlagAlerts.Scheduler.Drive
import FlagAlerts.Service.Build

/-!
# The service on its own clock

The loops of the scheduler start runs of the consumer and of the scans. All of them are prompt, and
time goes by only while all of them wait; meanwhile the clock on the wall stands still.
-/

namespace FlagAlerts.Service

/-- The time in milliseconds. -/
def now (s : Service) : Nat := s.scheduler.clock.timer

/-- The service with a loop after an action, if the action is possible. -/
def stepLoop (s : Service) (place : Nat) (a : LoopAction) : Service :=
  { s with scheduler := (s.scheduler.stepLoop? place a).getD s.scheduler }

/-- Whether the scheduler stops. -/
def isStopping (s : Service) : Bool := s.scheduler.stage == .stopped

/-- A run begins. -/
def beginRun (s : Service) (place number : Nat) : Service :=
  let s := s.stepLoop place (.beginRun number)
  match place with
  | 0 => { s with consumer := s.consumer.start }
  | k + 1 =>
    match s.watchJobs[k]? with
    | none => s
    | some job =>
      let run := ⟨place, number, s.now, job.run .never (s.scheduler.clock.wall / 1000)⟩
      { s with watchRuns := s.watchRuns ++ [run] }

/-- A run of the consumer ends if it is done. -/
def endConsumerRun (s : Service) (number : Nat) : Service :=
  if s.consumer.isFinished number then
    let isAborted := s.consumer.runs[number]?.any (·.phase == .aborted)
    s.stepLoop 0 (.endRun number (if isAborted then .crashed else .succeeded))
  else s

/-- A scan ends if it is done, or if the scheduler stops. -/
def endWatchRun (s : Service) (run : WatchRun) : Service :=
  let spent := s.now - run.startedAt
  let (isEnded, work) :=
    if run.work.duration ≤ spent then (true, some <$> run.work)
    else (s.isStopping, run.work.until_ spent)
  if isEnded then
    let isOk := match work.result with | some (.ok ()) => true | _ => false
    { s.stepLoop run.place (.endRun run.number (if isOk then .succeeded else .failed)) with
      watchEffects := s.watchEffects ++ work.actsFrom run.startedAt }
  else { s with watchRuns := s.watchRuns ++ [run] }

/-- The runs of the loops with the places of these. -/
def loopRuns (s : Service) : List (Nat × JobRun) :=
  (s.scheduler.loops.mapIdx fun place l => l.runs.map fun run => (place, run)).flatten

/-- Cancels the runs of the consumer if the scheduler stops, and cuts off those that it aborted. -/
def passSignals (s : Service) : Service :=
  if s.isStopping then
    let runs := List.range s.consumer.runs.length
    let aborted := (s.scheduler.loops.head?.map (·.ended)).getD []
    let consumer := runs.foldl Consumer.cancel s.consumer
    { s with consumer := runs.foldl (fun c i =>
        if aborted.contains (i, .aborted) then (c.abort? i).getD c else c) consumer }
  else s

/-- Everything that can happen now happens once. -/
def settleOnce (s : Service) : Service :=
  let places := List.range s.scheduler.loops.length
  let s := places.foldl (fun s place =>
    [LoopAction.plan, .notice, .close, .fire].foldl (fun s a => s.stepLoop place a) s) s
  let s := s.loopRuns.foldl (fun s (place, run) =>
    if run.hasBegun then s else s.beginRun place run.number) s
  let s := s.passSignals
  let s := { s with consumer := s.consumer.settleDown }
  let s := s.loopRuns.foldl (fun s (place, run) =>
    if place = 0 then s.endConsumerRun run.number else s) s
  s.watchRuns.foldl endWatchRun { s with watchRuns := [] }

/-- The next instant at which something can happen, no later than the given one. -/
def nextInstant (s : Service) (deadline : Nat) : Nat :=
  let ends := s.watchRuns.map fun run => run.startedAt + run.work.duration
  match ((s.scheduler.wakeTimes ++ ends).filter (s.now < ·)).min? with
  | some t => min t (s.consumer.nextInstant deadline)
  | none => s.consumer.nextInstant deadline

/-- Time goes by up to an instant. -/
def passTo (s : Service) (instant : Nat) : Service :=
  { s with
    scheduler := { s.scheduler with clock := { s.scheduler.clock with timer := instant } }
    consumer := { s.consumer with intake := s.consumer.intake.passTo instant } }

/-- The service goes on until something holds, though not past an instant. -/
def goUpTo (isDone : Service → Bool) (deadline : Nat) : Nat → Service → Bool × Service
  | 0, s => (false, s)
  | fuel + 1, s =>
    -- A loop that starts a run plans, begins the run, and may close, one after another.
    let s := s.settleOnce.settleOnce.settleOnce
    if isDone s then (true, s)
    else if deadline ≤ s.now then (false, s)
    else goUpTo isDone deadline fuel (s.passTo (s.nextInstant deadline))

/-- The service goes on until something holds, for at most so many milliseconds; gives whether it
came to hold. -/
def goOn (s : Service) (isDone : Service → Bool) (ms : Nat) : Bool × Service :=
  s.goUpTo isDone (s.now + ms) (ms + 1)

/-- Whether every message that was pushed has been settled. -/
def isSettled (s : Service) : Bool :=
  s.consumer.intake.settlements.length == s.consumer.intake.queue.pushed

/-- The service stops its scheduler and waits for all loops, for at most so many milliseconds; gives
whether they finished. -/
def shutDown (s : Service) (ms : Nat) : Bool × Service :=
  { s with scheduler := s.scheduler.stop }.goOn (·.scheduler.isStopDone) ms

end FlagAlerts.Service
