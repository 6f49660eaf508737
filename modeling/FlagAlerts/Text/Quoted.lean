import FlagAlerts.Text.Decimal
import FlagAlerts.Text.Printable

/-!
# Texts quoted in messages

A text quoted in an error message stands between double quotes. The quote, the backslash and the
common control characters have short escapes, any other character that would not show has its
number in braces, and all else stands as it is.
-/

namespace FlagAlerts.Text

/-- One character of a quoted text. -/
def quoteChar (c : Char) : List Char :=
  if c = '\x00' then ['\\', '0']
  else if c = '\t' then ['\\', 't']
  else if c = '\r' then ['\\', 'r']
  else if c = '\n' then ['\\', 'n']
  else if c = '"' then ['\\', '"']
  else if c = '\\' then ['\\', '\\']
  else if isShown c then [c]
  else ['\\', 'u', '\x7b'] ++ hexDigits c.toNat ++ ['\x7d']

/-- The text between double quotes, with escapes. -/
def quoted (s : String) : String :=
  String.ofList ('"' :: s.toList.flatMap quoteChar ++ ['"'])

end FlagAlerts.Text
