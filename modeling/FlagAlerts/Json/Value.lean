import FlagAlerts.Text.Decimal

/-!
# JSON values and their compact text

A value's compact text has no spaces. In a text only the quote, the backslash and the control
characters are escaped, the common ones by a letter and the others by their number.
-/

namespace FlagAlerts

/-- A JSON value whose numbers are whole. Fields keep the order they were given in. -/
inductive Json where
  | null
  | bool (b : Bool)
  | int (n : Int)
  | text (s : String)
  | list (items : List Json)
  | record (fields : List (String × Json))
  deriving Repr, Inhabited

namespace Json

open FlagAlerts.Text

/-- One character of a text. -/
def escapeChar (c : Char) : List Char :=
  if c = '"' then ['\\', '"']
  else if c = '\\' then ['\\', '\\']
  else if c = '\x08' then ['\\', 'b']
  else if c = '\x0c' then ['\\', 'f']
  else if c = '\n' then ['\\', 'n']
  else if c = '\r' then ['\\', 'r']
  else if c = '\t' then ['\\', 't']
  else if c.toNat < 0x20 then
    ['\\', 'u', '0', '0', hexChar (c.toNat / 16), hexChar (c.toNat % 16)]
  else [c]

/-- A text between quotes. -/
def textChars (s : String) : List Char := '"' :: s.toList.flatMap escapeChar ++ ['"']

mutual

/-- The characters of a value's compact text. -/
def chars : Json → List Char
  | .null => ['n', 'u', 'l', 'l']
  | .bool true => ['t', 'r', 'u', 'e']
  | .bool false => ['f', 'a', 'l', 's', 'e']
  | .int n => (decimalInt n).toList
  | .text s => textChars s
  | .list [] => ['[', ']']
  | .list (item :: items) => '[' :: chars item ++ itemChars items
  | .record [] => ['\x7b', '\x7d']
  | .record ((name, value) :: fields) =>
    '\x7b' :: textChars name ++ ':' :: chars value ++ fieldChars fields

/-- The items of a list after the first, and its end. -/
def itemChars : List Json → List Char
  | [] => [']']
  | item :: items => ',' :: chars item ++ itemChars items

/-- The fields of a record after the first, and its end. -/
def fieldChars : List (String × Json) → List Char
  | [] => ['\x7d']
  | (name, value) :: fields => ',' :: textChars name ++ ':' :: chars value ++ fieldChars fields

end

/-- A value's compact text. -/
def compact (j : Json) : String := String.ofList j.chars

/-- A list of texts. -/
def texts (items : List String) : Json := .list (items.map .text)

/-- A count. -/
def nat (n : Nat) : Json := .int n

/-- A value that may be missing, written as null. -/
def ofOption {α : Type} (encode : α → Json) : Option α → Json
  | none => .null
  | some a => encode a

end Json

end FlagAlerts
