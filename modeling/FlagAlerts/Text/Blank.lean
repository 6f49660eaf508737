/-!
# Blank characters

The characters with the property of being white space, and the two operations on texts that depend
on it: cutting blanks off both ends, and splitting a text into its blank-separated words.
-/

namespace FlagAlerts.Text

/-- White space: the ASCII blanks, the line breaks, and the spaces of other scripts. -/
def isBlank (c : Char) : Bool :=
  let n := c.toNat
  (0x9 ≤ n && n ≤ 0xD) || n == 0x20 || n == 0x85 || n == 0xA0 || n == 0x1680 ||
    (0x2000 ≤ n && n ≤ 0x200A) || n == 0x2028 || n == 0x2029 || n == 0x202F || n == 0x205F ||
    n == 0x3000

/-- The characters without the blanks at both ends. -/
def trimChars (cs : List Char) : List Char :=
  ((cs.dropWhile isBlank).reverse.dropWhile isBlank).reverse

/-- The text without the blanks at both ends. -/
def trim (s : String) : String := String.ofList (trimChars s.toList)

/-- Adds a character to the word being read, or closes that word at a blank. -/
def addToWords (c : Char) : List (List Char) → List (List Char)
  | [] => if isBlank c then [[]] else [[c]]
  | w :: ws => if isBlank c then [] :: w :: ws else (c :: w) :: ws

/-- The blank-separated words of the characters, in order; none of them is empty. -/
def wordsOfChars (cs : List Char) : List (List Char) :=
  (cs.foldr addToWords []).filter fun w => !w.isEmpty

/-- The blank-separated words of the text. -/
def words (s : String) : List String := (wordsOfChars s.toList).map String.ofList

end FlagAlerts.Text
