import FlagAlerts.Intake.Action

/-!
# An intake on its own clock

Here workers are prompt: they take every step they can before any time goes by, those that came
first before the others, and time goes by only while all of them wait. A receiver that waits for a
message looks into the channel before it lets the workers go on.
-/

namespace FlagAlerts.Intake

/-- The first worker that can take a step takes it. -/
def workOnce? (s : Intake) : Option Intake := (List.range s.workers.length).findSome? s.work?

/-- The workers take at most so many steps. -/
def workUpTo : Nat → Intake → Intake
  | 0, s => s
  | fuel + 1, s =>
    match s.workOnce? with
    | some t => workUpTo fuel t
    | none => s

/-- A bound on the steps that workers can take while no time goes by: a few for each worker, and a
few more for each message and each failing pull. -/
def workBound (s : Intake) : Nat :=
  16 * (s.workers.length + s.queue.messages.length + s.queue.failures + 1)

/-- The workers take steps until all of them wait. -/
def settleDown (s : Intake) : Intake := s.workUpTo s.workBound

/-- The next instant after now that a worker waits for. -/
def nextWake? (s : Intake) : Option Nat := (s.wakeTimes.filter (s.now < ·)).min?

/-- Time goes by up to an instant. -/
def passTo (s : Intake) (instant : Nat) : Intake := { s with now := max s.now instant }

/-- The next instant at which something can happen, no later than the given one. -/
def nextInstant (s : Intake) (deadline : Nat) : Nat :=
  match s.nextWake? with
  | some t => min t deadline
  | none => deadline

/-- What one who waits for a message gets. -/
inductive Received where
  | message (m : BusMessage)
  | closed
  | timeout
  deriving Repr, DecidableEq, Inhabited

/-- What is in a channel now; nothing if the receiver has to wait. -/
def poll? (s : Intake) (r : Nat) : Option (Received × Intake) :=
  match s.receive? r with
  | some (m, s) => some (.message m, s)
  | none =>
    if s.runs[r]?.all (·.isClosed) || s.isDeserted r then some (.closed, s) else none

/-- Waits for a message, for at most so many milliseconds. -/
def awaitUpTo (r deadline : Nat) : Nat → Intake → Received × Intake
  | 0, s => (.timeout, s)
  | fuel + 1, s =>
    match s.poll? r with
    | some answer => answer
    | none =>
      let s := s.settleDown
      match s.poll? r with
      | some answer => answer
      | none =>
        if deadline ≤ s.now then (.timeout, s)
        else awaitUpTo r deadline fuel (s.passTo (s.nextInstant deadline))

/-- The receiver of a run waits for a message, for at most so many milliseconds. -/
def await (s : Intake) (r ms : Nat) : Received × Intake := awaitUpTo r (s.now + ms) (ms + 1) s

/-- The workers go on up to an instant. -/
def runUpTo (deadline : Nat) : Nat → Intake → Intake
  | 0, s => s
  | fuel + 1, s =>
    let s := s.settleDown
    if deadline ≤ s.now then s else runUpTo deadline fuel (s.passTo (s.nextInstant deadline))

/-- The receiver lets so many milliseconds go by. -/
def sleep (s : Intake) (ms : Nat) : Intake := runUpTo (s.now + ms) (ms + 1) s

/-- The workers go on until they have left a run, though not past an instant. -/
def joinUpTo (r deadline : Nat) : Nat → Intake → Bool × Intake
  | 0, s => (false, s)
  | fuel + 1, s =>
    let s := s.settleDown
    if s.isDeserted r then (true, s)
    else if deadline ≤ s.now then (false, s)
    else joinUpTo r deadline fuel (s.passTo (s.nextInstant deadline))

/-- The receiver closes its channel and waits for the workers to leave, for at most so many
milliseconds; gives whether they did. -/
def shutDown (s : Intake) (r ms : Nat) : Bool × Intake :=
  joinUpTo r (s.now + ms) (ms + 1) (s.close r)

/-- The receiver takes and acknowledges at most so many messages, each within the given time. -/
def drainUpTo (r ms : Nat) : Nat → Intake → List String × Intake
  | 0, s => ([], s)
  | fuel + 1, s =>
    match s.await r ms with
    | (.message m, s) =>
      let (ids, s) := drainUpTo r ms fuel ((s.settleHeld? m.id true).getD s)
      (m.id :: ids, s)
    | (_, s) => ([], s)

/-- The messages that are not with the receiver yet. -/
def pendingCount (s : Intake) : Nat :=
  s.queue.messages.length + s.workers.length + total (s.runs.map (·.channel.length))

/-- The receiver takes and acknowledges every message up to the end of the channel. -/
def drain (s : Intake) (r ms : Nat) : List String × Intake := drainUpTo r ms (s.pendingCount + 1) s

end FlagAlerts.Intake
