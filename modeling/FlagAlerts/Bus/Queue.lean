import FlagAlerts.Bus.Message
import FlagAlerts.Text.Decimal

/-!
# A subscription in memory

A queue that delivers messages in the order they were pushed, after any failures that were asked
for. When it is empty it is either closed, or those who pull wait for a push. Every push leaves a
notice for one who waits; a notice that nobody waits for is kept.
-/

namespace FlagAlerts

open FlagAlerts.Text

/-- The subscription's queue. -/
structure BusQueue where
  messages : List BusMessage := []
  /-- How many of the next pulls fail. -/
  failures : Nat := 0
  /-- Whether an empty queue is waited for rather than closed. -/
  staysOpen : Bool := false
  /-- Whether there is a notice that nobody waited for. -/
  hasNotice : Bool := false
  /-- How many messages were pushed. -/
  pushed : Nat := 0
  deriving Repr, DecidableEq, Inhabited

/-- What a pull finds. -/
inductive Pulled where
  | message (m : BusMessage)
  | failure
  | closed
  | nothing
  deriving Repr, DecidableEq, Inhabited

namespace BusQueue

/-- The name of the next delivery. -/
def nextId (q : BusQueue) : String := "msg-" ++ decimal q.pushed

/-- The queue with one more message at its end. -/
def push (q : BusQueue) (attributes : List (String × String)) (data : List UInt8) : BusQueue :=
  { q with
    messages := q.messages ++ [⟨q.nextId, attributes, data⟩]
    pushed := q.pushed + 1 }

/-- The queue with one more failing pull. -/
def pushFailure (q : BusQueue) : BusQueue := { q with failures := q.failures + 1 }

/-- What a pull finds, and the queue after it. -/
def pull (q : BusQueue) : Pulled × BusQueue :=
  if q.failures > 0 then (.failure, { q with failures := q.failures - 1 })
  else
    match q.messages with
    | m :: rest => (.message m, { q with messages := rest })
    | [] => (if q.staysOpen then .nothing else .closed, q)

end BusQueue

end FlagAlerts
