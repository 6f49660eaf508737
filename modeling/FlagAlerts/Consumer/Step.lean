import FlagAlerts.Consumer.Handle
import FlagAlerts.Intake.Action

/-!
# Runs of the consumer

A run of the consumer starts the intake, handles the messages one at a time, and ends when it is
cancelled, when its window is over, or when the subscription is closed. A message that it has begun
to handle is handled to the end. At the end the run cancels its workers, closes its channel, and
waits until they have left. Several runs may go on at a time.
-/

namespace FlagAlerts

/-- How many messages were handled, by how that ended. -/
structure RunSummary where
  ok : Nat := 0
  badMessage : Nat := 0
  repeatable : Nat := 0
  nonRepeatable : Nat := 0
  deriving Repr, DecidableEq, Inhabited

namespace RunSummary

/-- Counts one more message. -/
def add (s : RunSummary) : HandleCode → RunSummary
  | .ok => { s with ok := s.ok + 1 }
  | .badMessage => { s with badMessage := s.badMessage + 1 }
  | .repeatable => { s with repeatable := s.repeatable + 1 }
  | .nonRepeatable => { s with nonRepeatable := s.nonRepeatable + 1 }

/-- How many messages were handled. -/
def total (s : RunSummary) : Nat := s.ok + s.badMessage + s.repeatable + s.nonRepeatable

end RunSummary

/-- What a run of the consumer is doing. -/
inductive ConsumerPhase where
  | waiting
  /-- Handles a message, from one instant up to another. -/
  | handling (m : BusMessage) (start finish : Nat)
  /-- Waits for its workers to leave. -/
  | leaving
  | finished
  /-- Was cut off. -/
  | aborted
  deriving Repr, DecidableEq, Inhabited

/-- A run of the consumer. -/
structure ConsumerRun where
  /-- The run of the intake. -/
  run : Nat
  /-- The instant at which the window is over. -/
  windowEnd : Nat
  isCancelled : Bool := false
  phase : ConsumerPhase := .waiting
  summary : RunSummary := {}
  /-- What was done for the messages that are no longer handled, with the instants. -/
  effects : List (Nat × Effect) := []
  deriving Repr, DecidableEq, Inhabited

/-- The consumer with its intake. -/
structure Consumer where
  intake : Intake
  handler : Handler
  /-- The length of the window of a run, in milliseconds. -/
  window : Nat
  runs : List ConsumerRun := []

namespace Consumer

/-- Starts a run. -/
def start (c : Consumer) : Consumer :=
  { c with
    intake := c.intake.start
    runs := c.runs ++ [{ run := c.intake.runs.length, windowEnd := c.intake.now + c.window }] }

/-- Changes a run. -/
def setRun (c : Consumer) (i : Nat) (run : ConsumerRun) : Consumer :=
  { c with runs := c.runs.set i run }

/-- Cancels a run. -/
def cancel (c : Consumer) (i : Nat) : Consumer :=
  { c with runs := c.runs.modify i fun run => { run with isCancelled := true } }

/-- A run tells its workers to leave and closes its channel. -/
def leave (c : Consumer) (i : Nat) (run : ConsumerRun) : Consumer :=
  { c.setRun i { run with phase := .leaving } with
    intake := (c.intake.cancel run.run).close run.run }

/-- Whether a run stops taking messages. -/
def isOver (c : Consumer) (run : ConsumerRun) : Bool :=
  run.isCancelled || run.windowEnd ≤ c.intake.now

/-- A run is cut off, after what it did for the message that it handles. The message is handed back,
and nobody tells the workers. -/
def cutOff? (c : Consumer) (i : Nat) (run : ConsumerRun) (done : List (Nat × Effect)) :
    Option Consumer := do
  let intake ← match run.phase with
    | .waiting | .leaving => some c.intake
    | .handling m .. => c.intake.settleHeld? m.id false
    | .finished | .aborted => none
  return { c.setRun i { run with phase := .aborted, effects := run.effects ++ done } with
    intake := intake.abandon run.run }

/-- A run that waits takes a message, or leaves. -/
def take? (c : Consumer) (i : Nat) (run : ConsumerRun) : Option Consumer :=
  let now := c.intake.now
  if c.isOver run then some (c.leave i run)
  else
    match c.intake.receive? run.run with
    | some (m, intake) =>
      let run := { run with phase := .handling m now (now + (c.handler.handle m).duration) }
      let c := { c.setRun i run with intake := intake }
      if c.handler.hasDeadline now then some c else c.cutOff? i run [(now, Handler.takenOn)]
    | none => if c.intake.isDeserted run.run then some (c.leave i run) else none

/-- A run is done with a message that it handled from an instant on. -/
def settle? (c : Consumer) (i : Nat) (run : ConsumerRun) (m : BusMessage) (start : Nat) :
    Option Consumer := do
  let work := c.handler.handle m
  let intake ← c.intake.settleHeld? m.id work.result.shouldAck
  return { c.setRun i { run with
      phase := .waiting
      summary := run.summary.add work.result
      effects := run.effects ++ work.actsFrom start } with
    intake := intake }

/-- The next step of a run, if it can take one. -/
def poll? (c : Consumer) (i : Nat) : Option Consumer := do
  let run ← c.runs[i]?
  match run.phase with
  | .waiting => c.take? i run
  | .handling m start finish => if finish ≤ c.intake.now then c.settle? i run m start else none
  | .leaving =>
    if c.intake.isDeserted run.run then some (c.setRun i { run with phase := .finished }) else none
  | .finished | .aborted => none

/-- A run is cut off from outside, though not when it is just done with a message. -/
def abort? (c : Consumer) (i : Nat) : Option Consumer := do
  let run ← c.runs[i]?
  match run.phase with
  | .handling m start finish =>
    if finish ≤ c.intake.now then none
    else c.cutOff? i run (((c.handler.handle m).until_ (c.intake.now - start)).actsFrom start)
  | _ => c.cutOff? i run []

/-- The instants that runs wait for. -/
def wakeTimes (c : Consumer) : List Nat :=
  c.runs.filterMap fun run =>
    match run.phase with
    | .waiting => some run.windowEnd
    | .handling _ _ finish => some finish
    | _ => none

/-- Something that happens to a consumer. -/
inductive Action where
  | push (attributes : List (String × String)) (data : List UInt8)
  | failPull
  | start
  | cancel (run : Nat)
  | abort (run : Nat)
  /-- A run takes a step. -/
  | poll (run : Nat)
  /-- A worker takes a step. -/
  | work (worker : Nat)
  | pass (ms : Nat)
  deriving Repr, DecidableEq, Inhabited

/-- The consumer after an action; none if the action is not possible. -/
def step? (c : Consumer) : Action → Option Consumer
  | .push attributes data => some { c with intake := c.intake.push attributes data }
  | .failPull => some { c with intake := c.intake.failPull }
  | .start => some c.start
  | .cancel i => some (c.cancel i)
  | .abort i => c.abort? i
  | .poll i => c.poll? i
  | .work i => (c.intake.work? i).map fun intake => { c with intake := intake }
  | .pass ms =>
    if c.wakeTimes.all (c.intake.now + ms ≤ ·) then
      (c.intake.pass? ms).map fun intake => { c with intake := intake }
    else none

/-- The states that a consumer can get into from a given one. -/
inductive Reachable (start : Consumer) : Consumer → Prop where
  | initial : Reachable start start
  | step {c d : Consumer} (a : Action) (before : Reachable start c) (next : c.step? a = some d) :
    Reachable start d

end Consumer

end FlagAlerts
