import FlagAlerts.Bus.Message
import FlagAlerts.Config.Validate

/-!
# The limits of an intake

How many workers pull at a time, how many messages and bytes may be delivered and not yet settled,
and how far apart deliveries are.
-/

namespace FlagAlerts

/-- Why an intake cannot be set up. -/
inductive SetupError where
  | refused (e : ConfigError)
  /-- A limit is larger than what a gate can count. -/
  | tooManyPermits
  deriving Repr, DecidableEq, Inhabited

/-- The limits of an intake. -/
structure Limits where
  workers : Nat
  messages : Nat
  bytes : Nat
  /-- The nanoseconds from one delivery to the next. -/
  interval : Nat
  deriving Repr, DecidableEq, Inhabited

namespace Limits

/-- The most permits that a gate can count. -/
def maxPermits : Nat := 0x1FFFFFFFFFFFFFFF

/-- The limits of the settings, with at least one message and one byte. -/
def ofConfig? (c : PullerConfig) : Except SetupError Limits := do
  if c.concurrency = 0 then throw (.refused .noConcurrency)
  if c.maxMessagesPerSecond = 0 then throw (.refused .noMessageRate)
  let messages := max c.maxOutstandingMessages.toNat 1
  if messages > maxPermits then throw .tooManyPermits
  return {
    workers := c.concurrency.toNat
    messages := messages
    bytes := max (min c.maxOutstandingBytes.toNat maxUInt32) 1
    interval := 1000000000 / c.maxMessagesPerSecond.toNat }

/-- The byte permits that a message takes: one for an empty message, and all there are for one that
is too large. -/
def weight (l : Limits) (m : BusMessage) : Nat := max 1 (min m.size l.bytes)

end Limits

end FlagAlerts
