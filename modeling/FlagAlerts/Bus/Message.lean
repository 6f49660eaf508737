/-!
# Messages of the bus

The platform publishes changes as messages on a bus. A message that was delivered is settled once:
it is acknowledged, or it is handed back to be delivered again.
-/

namespace FlagAlerts

/-- A message as it is delivered. -/
structure BusMessage where
  /-- The name of the delivery. -/
  id : String
  attributes : List (String × String) := []
  data : List UInt8 := []
  deriving Repr, DecidableEq, Inhabited

namespace BusMessage

/-- The value of an attribute; empty if there is none. -/
def valueOf (m : BusMessage) (name : String) : String := (m.attributes.lookup name).getD ""

/-- The number of bytes of the payload. -/
def size (m : BusMessage) : Nat := m.data.length

end BusMessage

/-- How a delivered message was settled. -/
structure Settlement where
  id : String
  /-- Whether it was acknowledged rather than handed back. -/
  isAcked : Bool
  deriving Repr, DecidableEq, Inhabited

namespace Settlement

/-- The messages that were acknowledged, in order. -/
def acked (settlements : List Settlement) : List String :=
  (settlements.filter (·.isAcked)).map (·.id)

/-- The messages that were handed back, in order. -/
def nacked (settlements : List Settlement) : List String :=
  (settlements.filter (!·.isAcked)).map (·.id)

end Settlement

end FlagAlerts
