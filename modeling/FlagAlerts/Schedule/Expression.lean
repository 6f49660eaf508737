import FlagAlerts.Schedule.Field
import FlagAlerts.Text.Decimal

/-!
# Schedule expressions

An expression has six or seven fields, for seconds, minutes, hours, days of the month, months, days
of the week and maybe years, or is one of a few keywords. Fields need no blank between them where
they cannot be taken for one, and blanks may stand around numbers and names.
-/

namespace FlagAlerts.Schedule

open FlagAlerts.Text

/-- A reader of the start of a text. -/
abbrev Reader (α : Type) := List Char → Option (α × List Char)

/-- A blank in an expression. -/
def isSpace (c : Char) : Bool := c == ' ' || c == '\t' || c == '\r' || c == '\n'

/-- The text after the blanks at its start. -/
def skipSpace (cs : List Char) : List Char := cs.dropWhile isSpace

/-- Reads the longest nonempty run of characters of a class, with blanks around it. -/
def readRun (p : Char → Bool) : Reader (List Char) := fun cs =>
  let cs := skipSpace cs
  match cs.takeWhile p with
  | [] => none
  | run => some (run, skipSpace (cs.dropWhile p))

/-- Reads one character. -/
def readChar (c : Char) : Reader Unit
  | d :: rest => if d = c then some ((), rest) else none
  | [] => none

/-- Reads a number with blanks around it. -/
def readNumber : Reader Nat := fun cs => do
  let (run, rest) ← readRun Char.isDigit cs
  let n := ofDigits run
  if n ≤ maxUInt32 then some (n, rest) else none

/-- Reads a name with blanks around it. -/
def readName : Reader String := fun cs => do
  let (run, rest) ← readRun Char.isAlpha cs
  return (String.ofList run, rest)

/-- Reads two things with a hyphen between them. -/
def readPair {α : Type} (read : Reader α) : Reader (α × α) := fun cs => do
  let (a, rest) ← read cs
  let ((), rest) ← readChar '-' rest
  let (b, rest) ← read rest
  return ((a, b), rest)

/-- Reads a span. A question mark stands for all numbers where it is allowed. -/
def readSpan (allowsAny : Bool) : Reader Span := fun cs =>
  match cs with
  | '*' :: rest => some (.all, rest)
  | _ =>
    match allowsAny, cs with
    | true, '?' :: rest => some (.all, rest)
    | _, _ =>
      ((readPair readNumber cs).map fun ((a, b), rest) => (.range a b, rest)) <|>
      ((readNumber cs).map fun (n, rest) => (.point n, rest)) <|>
      ((readPair readName cs).map fun ((a, b), rest) => (.nameRange a b, rest)) <|>
      ((readName cs).map fun (s, rest) => (.name s, rest))

/-- Reads the step of an item. -/
def readStep : Reader Nat := fun cs => do
  let ((), rest) ← readChar '/' cs
  readNumber rest

/-- Reads an item. A lone name has no step. -/
def readItem (allowsAny : Bool) : Reader Item := fun cs => do
  let (span, rest) ← readSpan allowsAny cs
  match span, readStep rest with
  | .name _, _ | _, none => return (⟨span, none⟩, rest)
  | _, some (step, rest) => return (⟨span, some step⟩, rest)

/-- Reads the items after the first of a list. The fuel bounds their number. -/
def readMoreItems (allowsAny : Bool) : Nat → List Char → List Item × List Char
  | 0, cs => ([], cs)
  | fuel + 1, cs =>
    match readChar ',' cs with
    | none => ([], cs)
    | some ((), rest) =>
      match readItem allowsAny rest with
      | none => ([], cs)
      | some (item, rest) =>
        let (items, rest) := readMoreItems allowsAny fuel rest
        (item :: items, rest)

/-- Reads a field: items separated by commas, with blanks around them. -/
def readField (allowsAny : Bool) : Reader (List Item) := fun cs => do
  let (item, rest) ← readItem allowsAny (skipSpace cs)
  let (items, rest) := readMoreItems allowsAny rest.length rest
  return (item :: items, skipSpace rest)

/-- The fields of an expression. -/
structure Expression where
  seconds : List Item
  minutes : List Item
  hours : List Item
  daysOfMonth : List Item
  months : List Item
  daysOfWeek : List Item
  years : List Item
  deriving Repr, DecidableEq, Inhabited

namespace Expression

/-- The field of every number. -/
def every : List Item := [⟨.all, none⟩]

/-- The field of one number. -/
def only (n : Nat) : List Item := [⟨.point n, none⟩]

/-- The keywords, each with the expression it stands for. -/
def keywords : List (String × Expression) := [
  ("@yearly", ⟨only 0, only 0, only 0, only 1, only 1, every, every⟩),
  ("@monthly", ⟨only 0, only 0, only 0, only 1, every, every, every⟩),
  ("@weekly", ⟨only 0, only 0, only 0, every, every, only 1, every⟩),
  ("@daily", ⟨only 0, only 0, only 0, every, every, every, every⟩),
  ("@hourly", ⟨only 0, only 0, every, every, every, every, every⟩)]

/-- Reads the fields of an expression. -/
def readFields : Reader Expression := fun cs => do
  let (seconds, rest) ← readField false cs
  let (minutes, rest) ← readField false rest
  let (hours, rest) ← readField false rest
  let (daysOfMonth, rest) ← readField true rest
  let (months, rest) ← readField false rest
  let (daysOfWeek, rest) ← readField true rest
  let (years, rest) := (readField false rest).getD (every, rest)
  return (⟨seconds, minutes, hours, daysOfMonth, months, daysOfWeek, years⟩, rest)

/-- Reads a whole text as an expression. -/
def parse? (text : String) : Option Expression :=
  match keywords.find? (·.1 == text) with
  | some (_, e) => some e
  | none =>
    match readFields text.toList with
    | some (e, []) => some e
    | _ => none

end Expression

end FlagAlerts.Schedule
