import FlagAlerts.Intake.State

/-!
# The steps of a worker

A worker asks for a message permit, pulls, asks for byte permits, takes its turn at the rate, and
puts the message into the channel. It leaves at the first of these steps that finds its run
cancelled; only a message on its way into the channel waits for room or for the channel to close.
A message that a leaving worker has is handed back.
-/

namespace FlagAlerts.Intake

/-- The first millisecond that is not before a nanosecond. -/
def ceilMs (ns : Nat) : Nat := (ns + 999999) / 1000000

/-- The instant at which a phase ends by itself. -/
def wakeTime? (s : Intake) : Phase → Option Nat
  | .backingOff deadline => some deadline
  | .resting _ => some (ceilMs s.nextSlot)
  | _ => none

/-- A worker pulls. -/
def pull (s : Intake) (i : Nat) (w : Worker) : Intake :=
  match s.queue.pull with
  | (.message m, queue) =>
    { s with
      queue := queue
      health := { s.health with status := .healthy }
      workers := s.workers.set i
        { w with phase := .weighing m none, retryDelay := firstRetryDelay } }
  | (.failure, queue) =>
    { s with
      queue := queue
      workers := s.workers.set i
        { w with
          phase := .backingOff (s.now + w.retryDelay)
          retryDelay := min (w.retryDelay * 2) lastRetryDelay } }
  | (.closed, _) =>
    { s.freeMessage with health := { s.health with status := .unhealthy } }.leave i w.run
  | (.nothing, _) =>
    if s.queue.hasNotice then { s with queue := { s.queue with hasNotice := false } }
    else s.joinLine i (.listening · false)

/-- A worker takes its turn. -/
def takeTurn (s : Intake) (i : Nat) (m : BusMessage) : Intake :=
  if s.nextSlot > s.now * 1000000 then s.setPhase i (.resting m)
  else { s.setPhase i (.sending m) with nextSlot := s.now * 1000000 + s.limits.interval }

/-- A worker gives its turn back when its slot has come. -/
def endTurn (s : Intake) (i : Nat) (m : BusMessage) : Intake :=
  { s.setPhase i (.sending m) with nextSlot := s.nextSlot + s.limits.interval }

/-- What a worker whose run is cancelled does, unless it is putting a message into the channel. -/
def quit (s : Intake) (i : Nat) (w : Worker) : Option Intake :=
  match w.phase with
  | .asking _ => some (s.leave i w.run)
  | .pulling | .listening _ false | .backingOff _ => some (s.freeMessage.leave i w.run)
  | .listening _ true => some ((s.freeMessage.setPhase i .gone).giveNotice.sweep w.run)
  | .weighing m _ => some ((s.settleLight m false).leave i w.run)
  | .pacing m _ | .resting m => some ((s.settle m false).leave i w.run)
  | .sending _ | .gone => none

/-- What a worker does that goes on with its task, if it can. -/
def proceed (s : Intake) (i : Nat) (w : Worker) (run : IntakeRun) : Option Intake :=
  match w.phase with
  | .asking place =>
    if 0 < s.freeMessages && isNext (s.line Phase.askingPlace?) place then
      some { s.setPhase i .pulling with freeMessages := s.freeMessages - 1 }
    else if place.isNone then some (s.joinLine i fun p => .asking (some p))
    else none
  | .pulling => some (s.pull i w)
  | .listening _ isNoticed => if isNoticed then some (s.setPhase i .pulling) else none
  | .backingOff deadline =>
    if deadline ≤ s.now then some (s.freeMessage.setPhase i (.asking none)) else none
  | .weighing m place =>
    if s.limits.weight m ≤ s.freeBytes && isNext (s.line Phase.weighingPlace?) place then
      some { s.setPhase i (.pacing m none) with freeBytes := s.freeBytes - s.limits.weight m }
    else if place.isNone then some (s.joinLine i fun p => .weighing m (some p))
    else none
  | .pacing m place =>
    if s.workers.all (!·.phase.isResting) && isNext (s.line Phase.pacingPlace?) place then
      some (s.takeTurn i m)
    else if place.isNone then some (s.joinLine i fun p => .pacing m (some p))
    else none
  | .resting m => if ceilMs s.nextSlot ≤ s.now then some (s.endTurn i m) else none
  | .sending m =>
    if run.isClosed then some ((s.settle m false).leave i w.run)
    else if run.channel.length < s.limits.workers then
      some ((s.setPhase i (.asking none)).setRun w.run fun run =>
        { run with channel := run.channel ++ [m] })
    else none
  | .gone => none

/-- The next step of a worker, if it can take one. -/
def work? (s : Intake) (i : Nat) : Option Intake := do
  let w ← s.workers[i]?
  let run ← s.runs[w.run]?
  if run.isCancelled && !(w.phase matches .sending _) then s.quit i w else s.proceed i w run

end FlagAlerts.Intake
