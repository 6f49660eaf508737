/-!
# Punycode

A label of a host name with characters above ASCII is written in ASCII: its ASCII characters come
first, then where the others belong, as differences in a variable-length base 36 whose digit
thresholds adapt to what was written. Reading such a label gives back its characters.
-/

namespace FlagAlerts.Web.Punycode

/-- The character of a digit: letters, then decimal digits. -/
def digitChar (d : Nat) : Char :=
  if d < 26 then Char.ofNat (0x61 + d) else Char.ofNat (0x30 + d - 26)

/-- The threshold of the digit at a position. -/
def threshold (position bias : Nat) : Nat :=
  if position ≤ bias + 1 then 1 else if bias + 26 ≤ position then 26 else position - bias

/-- Divides until the number is small, and counts the positions passed. -/
def shrink : Nat → Nat → Nat → Nat × Nat
  | 0, delta, position => (delta, position)
  | fuel + 1, delta, position =>
    if delta > 455 then shrink fuel (delta / 35) (position + 36) else (delta, position)

/-- The bias after a difference was written. -/
def adapt (delta count : Nat) (isFirst : Bool) : Nat :=
  let delta := if isFirst then delta / 700 else delta / 2
  let (delta, position) := shrink delta (delta + delta / count) 0
  position + 36 * delta / (delta + 38)

/-- The digits of a difference, from a position on. -/
def differenceDigits (bias : Nat) : Nat → Nat → Nat → List Char
  | 0, _, _ => []
  | fuel + 1, position, n =>
    let t := threshold position bias
    if n < t then [digitChar n]
    else digitChar (t + (n - t) % (36 - t)) ::
      differenceDigits bias fuel (position + 36) ((n - t) / (36 - t))

/-- What is known while a label is written: the digits so far, the difference to write next, the
bias, and the number of characters placed. -/
structure Progress where
  digits : List Char
  delta : Nat
  bias : Nat
  placed : Nat

/-- Passes a character of the label while those of number `n` are placed. -/
def place (ascii n : Nat) (p : Progress) (c : Nat) : Progress :=
  if c < n then { p with delta := p.delta + 1 }
  else if c = n then
    { digits := p.digits ++ differenceDigits p.bias (p.delta + 1) 36 p.delta
      delta := 0
      bias := adapt p.delta (p.placed + 1) (p.placed == ascii)
      placed := p.placed + 1 }
  else p

/-- Places the characters of each number in turn. -/
def placeAll (ascii : Nat) (label : List Nat) : List Nat → Nat → Progress → Progress
  | [], _, p => p
  | n :: rest, last, p =>
    let p := { p with delta := p.delta + (n - last) * (p.placed + 1) }
    let p := label.foldl (place ascii n) p
    placeAll ascii label rest (n + 1) { p with delta := p.delta + 1 }

/-- A label in ASCII. -/
def encode (label : List Char) : List Char :=
  let ascii := label.filter (·.toNat < 0x80)
  if ascii.length = label.length then label
  else
    let numbers := label.map Char.toNat
    let others := (numbers.filter (0x80 ≤ ·)).mergeSort.eraseDups
    let p := placeAll ascii.length numbers others 0x80 ⟨[], 0, 72, ascii.length⟩
    "xn--".toList ++ (if ascii.isEmpty then [] else ascii ++ ['-']) ++ p.digits

/-- The digit of a character. -/
def digit? (c : Char) : Option Nat :=
  if 'a' ≤ c && c ≤ 'z' then some (c.toNat - 0x61)
  else if '0' ≤ c && c ≤ '9' then some (c.toNat - 0x30 + 26)
  else none

/-- The greatest weight of a digit. -/
def maxWeight : Nat := 4294967295

/-- Reads a difference whose digits so far make up a number, from the digit of a position and a
weight on. -/
def readDifference (bias : Nat) :
    (position weight soFar : Nat) → List Char → Option (Nat × List Char)
  | _, _, _, [] => none
  | position, weight, soFar, c :: rest => do
    let d ← digit? c
    let t := threshold position bias
    let soFar := soFar + d * weight
    if d < t then return (soFar, rest)
    else if weight * (36 - t) > maxWeight then none
    else readDifference bias (position + 36) (weight * (36 - t)) soFar rest

/-- The character of a number, if it is one. -/
def character? (n : Nat) : Option Char :=
  if n < 0xD800 || (0xE000 ≤ n && n < 0x110000) then some (Char.ofNat n) else none

/-- Puts the characters that digits tell into a label, from a character and a place on. The fuel
bounds the number of digits. -/
def insertAll : Nat → (n place bias : Nat) → (isFirst : Bool) → List Char → List Char →
    Option (List Char)
  | _, _, _, _, _, [], label => some label
  | 0, _, _, _, _, _, _ => none
  | fuel + 1, n, place, bias, isFirst, digits, label => do
    let (difference, rest) ← readDifference bias 36 1 0 digits
    let count := label.length + 1
    let n := n + (place + difference) / count
    let place := (place + difference) % count
    let c ← character? n
    insertAll fuel n (place + 1) (adapt difference count isFirst) false rest
      (label.take place ++ c :: label.drop place)

/-- The ASCII characters before the last dash of a text and the digits after it, if there is a dash
and something before it; otherwise the text is digits. -/
def splitDigits (text : List Char) : List Char × List Char :=
  let digits := (text.reverse.takeWhile (· != '-')).reverse
  let ascii := (text.take (text.length - digits.length)).dropLast
  if ascii.isEmpty then ([], text) else (ascii, digits)

/-- The label that the text after the mark of a label in ASCII tells, if it tells one. -/
def decode? (text : List Char) : Option (List Char) :=
  let (ascii, digits) := splitDigits text
  insertAll digits.length 0x80 0 72 true digits ascii

end FlagAlerts.Web.Punycode
