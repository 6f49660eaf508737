import FlagAlerts.Bus.Queue
import FlagAlerts.Health
import FlagAlerts.Intake.Limits

/-!
# The state of an intake

An intake pulls messages from a subscription with a number of workers and hands them to a receiver
through a channel. Three gates stand in between, each with a line in front of it: one for the number
of messages that are not settled, one for their bytes, and one for the rate. Every start of the
intake is a run with workers and a channel of its own; the gates are shared by all runs.

A message is at one place at a time: in the queue, with a worker, in the channel of a run, or with
the receiver.
-/

namespace FlagAlerts

/-- What a worker is doing. A place is a number in a line; it is missing before the worker joins. -/
inductive Phase where
  /-- Asks for a message permit. -/
  | asking (place : Option Nat)
  /-- Has a message permit, as in all the following phases, and pulls. -/
  | pulling
  /-- Waits for a notice of the queue. -/
  | listening (place : Nat) (isNoticed : Bool)
  /-- Waits after a failed pull. -/
  | backingOff (deadline : Nat)
  /-- Asks for the byte permits of a message. -/
  | weighing (m : BusMessage) (place : Option Nat)
  /-- Has byte permits, as in all the following phases, and asks for its turn. -/
  | pacing (m : BusMessage) (place : Option Nat)
  /-- Has its turn and waits for the next slot. -/
  | resting (m : BusMessage)
  /-- Puts the message into the channel. -/
  | sending (m : BusMessage)
  /-- Has left. -/
  | gone
  deriving Repr, DecidableEq, Inhabited

namespace Phase

/-- The place in the line for message permits. -/
def askingPlace? : Phase → Option Nat
  | .asking place => place
  | _ => none

/-- The place in the line for byte permits. -/
def weighingPlace? : Phase → Option Nat
  | .weighing _ place => place
  | _ => none

/-- The place in the line for turns. -/
def pacingPlace? : Phase → Option Nat
  | .pacing _ place => place
  | _ => none

/-- The place among those who wait for a notice and got none yet. -/
def listeningPlace? : Phase → Option Nat
  | .listening place false => some place
  | _ => none

/-- Whether the worker has its turn. -/
def isResting : Phase → Bool
  | .resting _ => true
  | _ => false

end Phase

/-- A worker. -/
structure Worker where
  /-- The run that the worker belongs to. -/
  run : Nat
  phase : Phase := .asking none
  /-- How long the worker waits after the next failed pull. -/
  retryDelay : Nat
  deriving Repr, DecidableEq, Inhabited

/-- One start of the intake. -/
structure IntakeRun where
  /-- The messages in the channel. -/
  channel : List BusMessage := []
  isClosed : Bool := false
  isCancelled : Bool := false
  /-- Whether whoever started the run is gone, so that nobody receives or cancels any more. -/
  isAbandoned : Bool := false
  deriving Repr, DecidableEq, Inhabited

/-- An intake. -/
structure Intake where
  limits : Limits
  queue : BusQueue := {}
  /-- The time in milliseconds. -/
  now : Nat := 0
  freeMessages : Nat
  freeBytes : Nat
  /-- The first nanosecond of the next slot. -/
  nextSlot : Nat := 0
  /-- The number of the next place in a line. -/
  nextPlace : Nat := 0
  runs : List IntakeRun := []
  workers : List Worker := []
  /-- The messages with the receiver. -/
  held : List BusMessage := []
  settlements : List Settlement := []
  health : HealthFlag := ⟨"domain_event_puller", .healthy⟩
  deriving Repr, DecidableEq, Inhabited

namespace Intake

/-- The wait after the first of several failed pulls, in milliseconds. -/
def firstRetryDelay : Nat := 1000

/-- The longest wait after a failed pull. -/
def lastRetryDelay : Nat := 30000

/-- An intake that was never started. -/
def ofLimits (limits : Limits) (queue : BusQueue) : Intake where
  limits := limits
  queue := queue
  freeMessages := limits.messages
  freeBytes := limits.bytes

/-! ## Lines -/

/-- The places in a line. -/
def line (s : Intake) (place? : Phase → Option Nat) : List Nat :=
  s.workers.filterMap fun w => place? w.phase

/-- Whether one who has the place, or has not joined the line yet, is the next. -/
def isNext (line : List Nat) : Option Nat → Bool
  | none => line.isEmpty
  | some place => line.all (place ≤ ·)

/-! ## Changes -/

/-- Changes what a worker is doing. -/
def setPhase (s : Intake) (i : Nat) (phase : Phase) : Intake :=
  { s with workers := s.workers.modify i fun w => { w with phase := phase } }

/-- Gives a worker the next place in a line. -/
def joinLine (s : Intake) (i : Nat) (phase : Nat → Phase) : Intake :=
  { s.setPhase i (phase s.nextPlace) with nextPlace := s.nextPlace + 1 }

/-- Changes one run. -/
def setRun (s : Intake) (r : Nat) (change : IntakeRun → IntakeRun) : Intake :=
  { s with runs := s.runs.modify r change }

/-- Gives back a message permit. -/
def freeMessage (s : Intake) : Intake := { s with freeMessages := s.freeMessages + 1 }

/-- Settles a message that has only a message permit. -/
def settleLight (s : Intake) (m : BusMessage) (isAcked : Bool) : Intake :=
  { s.freeMessage with settlements := s.settlements ++ [⟨m.id, isAcked⟩] }

/-- Settles a message that has both kinds of permits. -/
def settle (s : Intake) (m : BusMessage) (isAcked : Bool) : Intake :=
  { s.settleLight m isAcked with freeBytes := s.freeBytes + s.limits.weight m }

/-- Hands back messages one after another. -/
def handBack (s : Intake) (ms : List BusMessage) : Intake :=
  ms.foldl (fun s m => s.settle m false) s

/-- Tells the one who waits longest for a notice, or keeps the notice. -/
def giveNotice (s : Intake) : Intake :=
  let places := s.line Phase.listeningPlace?
  match s.workers.findIdx? fun w => w.phase.listeningPlace?.any fun p => places.all (p ≤ ·) with
  | some i => s.setPhase i (.listening 0 true)
  | none => { s with queue := { s.queue with hasNotice := true } }

/-- Whether all workers of a run have left. -/
def isDeserted (s : Intake) (r : Nat) : Bool :=
  s.workers.all fun w => w.run != r || w.phase == .gone

/-- Hands back the channel of an abandoned run once its last worker has left. -/
def sweep (s : Intake) (r : Nat) : Intake :=
  match s.runs[r]? with
  | some run =>
    if run.isAbandoned && s.isDeserted r then
      (s.handBack run.channel).setRun r fun run => { run with channel := [] }
    else s
  | none => s

/-- A worker leaves its run. -/
def leave (s : Intake) (i r : Nat) : Intake := (s.setPhase i .gone).sweep r

end Intake

end FlagAlerts
