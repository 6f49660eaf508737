/-!
# Escaping in message texts

In a message's text an angle bracket starts or ends a control sequence and an ampersand starts an
entity, so these three characters are written as entities.
-/

namespace FlagAlerts.Message

/-- One character of an escaped text. -/
def escapeChar (c : Char) : List Char :=
  if c = '&' then ['&', 'a', 'm', 'p', ';']
  else if c = '<' then ['&', 'l', 't', ';']
  else if c = '>' then ['&', 'g', 't', ';']
  else [c]

/-- The text with its special characters written as entities. -/
def escape (s : String) : String := String.ofList (s.toList.flatMap escapeChar)

end FlagAlerts.Message
