import FlagAlerts.Calendar.Date

/-!
# Dates and times as they are written

A day, a time of day, or a day with a time of day behind it and maybe an offset from Unix time.
Every number has a fixed number of digits, and the day is one of its month.
-/

namespace FlagAlerts.Calendar

open FlagAlerts.Text

/-- Reads a number of so many digits that lies in a range. -/
def readPart (count least greatest : Nat) (cs : List Char) : Option (Nat × List Char) := do
  let ds := cs.take count
  let n ← readDigits? ds
  if ds.length = count && least ≤ n && n ≤ greatest then some (n, cs.drop count) else none

/-- Reads a character of a class. -/
def readMark (p : Char → Bool) : List Char → Option (List Char)
  | c :: rest => if p c then some rest else none
  | [] => none

/-- Reads a day: year, month and day of the month. -/
def readDay (cs : List Char) : Option (Date × List Char) := do
  let (year, rest) ← readPart 4 0 9999 cs
  let rest ← readMark (· == '-') rest
  let (month, rest) ← readPart 2 1 12 rest
  let rest ← readMark (· == '-') rest
  let (day, rest) ← readPart 2 1 (daysIn year month) rest
  return (⟨year, month, day⟩, rest)

/-- Skips a fraction of a second, if there is one. -/
def skipFraction : List Char → List Char
  | '.' :: d :: rest => if d.isDigit then rest.dropWhile Char.isDigit else '.' :: d :: rest
  | cs => cs

/-- Skips a time of day: hour, minute and second, which may be a leap second. -/
def skipTime (cs : List Char) : Option (List Char) := do
  let (_, rest) ← readPart 2 0 23 cs
  let rest ← readMark (· == ':') rest
  let (_, rest) ← readPart 2 0 59 rest
  let rest ← readMark (· == ':') rest
  let (_, rest) ← readPart 2 0 60 rest
  return skipFraction rest

/-- Skips an offset from Unix time: a letter, or a sign, hours and minutes. -/
def skipOffset (cs : List Char) : Option (List Char) :=
  readMark (fun c => c == 'Z' || c == 'z') cs <|> do
    let rest ← readMark (fun c => c == '+' || c == '-') cs
    let (_, rest) ← readPart 2 0 23 rest
    let rest ← readMark (· == ':') rest
    let (_, rest) ← readPart 2 0 59 rest
    return rest

/-- Skips a date, a time, or both with a letter or a space between them. -/
def skipMoment (cs : List Char) : Option (List Char) :=
  match readDay cs with
  | none => skipTime cs
  | some (_, rest) =>
    let time := do
      let rest ← readMark (fun c => c == 'T' || c == 't' || c == ' ') rest
      skipTime rest
    match time with
    | none => some rest
    | some rest => some ((skipOffset rest).getD rest)

end FlagAlerts.Calendar
