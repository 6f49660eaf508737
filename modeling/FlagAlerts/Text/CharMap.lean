import FlagAlerts.Text.Blank
import FlagAlerts.Text.Decimal
import FlagAlerts.Text.Split

/-!
# Properties of characters

A property gives values to ranges of characters. It is written down as a table of words, each one
the numbers of the first and the last character of a range, in hexadecimal with a dash between them,
an equals sign and the value; the ranges are apart and ascend. A character's value is looked up by
halving.
-/

namespace FlagAlerts.Text

/-- A range of characters, ends included, and the value of all of them. -/
structure CharRange (α : Type) where
  first : Nat
  last : Nat
  value : α
  deriving Repr

/-- The values of characters, as ranges that are apart and ascend. -/
structure CharMap (α : Type) where
  ranges : Array (CharRange α)
  deriving Repr

/-- A set of characters, as ranges that are apart and ascend. -/
abbrev CharSet := CharMap Unit

namespace CharMap

variable {α : Type}

/-- The range from `low` on and before `high` that a number lies in. -/
def search (ranges : Array (CharRange α)) (n low high : Nat) : Option (CharRange α) :=
  if low < high then
    let middle := (low + high) / 2
    match ranges[middle]? with
    | none => none
    | some r =>
      if n < r.first then search ranges n low middle
      else if r.last < n then search ranges n (middle + 1) high
      else some r
  else none
termination_by high - low
decreasing_by all_goals omega

/-- The range that a character lies in. -/
def range? (m : CharMap α) (c : Char) : Option (CharRange α) :=
  search m.ranges c.toNat 0 m.ranges.size

/-- The value of a character. -/
def find? (m : CharMap α) (c : Char) : Option α := (m.range? c).map (·.value)

/-- Whether a character has a value. -/
def contains (m : CharMap α) (c : Char) : Bool := (m.range? c).isSome

/-- The number that hexadecimal digits stand for. -/
def ofHex (cs : List Char) : Nat := cs.foldl (fun n c => n * 16 + (hexValue? c).getD 0) 0

/-- One word of a table. A range of one character is written as that character. -/
def ofWord (value : List Char → α) (word : List Char) : CharRange α :=
  let (range, text) := (cut? '=' word).getD (word, [])
  let (first, last) := (cut? '-' range).getD (range, range)
  ⟨ofHex first, ofHex last, value text⟩

/-- The property that a table gives, whose values are read by a function. -/
def ofTable (value : List Char → α) (table : String) : CharMap α :=
  ⟨((wordsOfChars table.toList).map (ofWord value)).toArray⟩

end CharMap

/-- The set that a table of ranges gives. -/
def CharSet.ofTable (table : String) : CharSet := CharMap.ofTable (fun _ => ()) table

end FlagAlerts.Text
