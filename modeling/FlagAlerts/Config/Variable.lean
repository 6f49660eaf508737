import FlagAlerts.Config.Tree
import FlagAlerts.Text.Blank
import FlagAlerts.Text.Escape

/-!
# Settings in environment variables

A variable whose name starts with a fixed text is a setting; two underscores or a dot stand between
the names of a table and of its entry, and neither case nor blanks around the name matter. A name
that is empty or leads through an empty one is passed over. The value is a truth value, a number, a
quoted text, a list or a table if it reads as one, and else the text as it stands.
-/

namespace FlagAlerts.Config.Variable

open FlagAlerts.Text

/-- A reader of the start of a text. -/
abbrev Reader (α : Type) := List Char → Option (α × List Char)

/-- What the names of variables start with. -/
def start : String := "FLAG_NOTIFIER_"

/-- A blank between the parts of a value. -/
def isSpace (c : Char) : Bool := c == ' ' || c == '\t' || c == '\n' || c == '\r' || c == '\x0c'

/-- The text after the blanks at its start. -/
def skipSpace (cs : List Char) : List Char := cs.dropWhile isSpace

/-- A character that ends a plain value. -/
def isSeparator (c : Char) : Bool :=
  c == ',' || c == '[' || c == ']' || c == '\x7b' || c == '\x7d'

/-- A character of a name without quotes. -/
def isNameChar (c : Char) : Bool := c.isAlphanum || c == '_' || c == '-'

/-- Whether a text is a number with a point. -/
def isFloat (cs : List Char) : Bool :=
  let body := match cs with
    | '-' :: rest => rest
    | '+' :: rest => rest
    | _ => cs
  let isExponent (c : Char) : Bool := c == 'e' || c == 'E'
  let mantissa := body.takeWhile fun c => !isExponent c
  let exponent := match (body.dropWhile fun c => !isExponent c).drop 1 with
    | '-' :: ds => ds
    | '+' :: ds => ds
    | ds => ds
  let hasExponent := body.any isExponent
  let digits := mantissa.filter (· != '.')
  mantissa.count '.' = 1 && !digits.isEmpty && digits.all Char.isDigit &&
    (!hasExponent || (!exponent.isEmpty && exponent.all Char.isDigit))

/-- The value of a plain text: a number, or the text itself. -/
def plain (cs : List Char) : ConfigTree :=
  if isFloat cs then .fraction
  else
    match readNat? maxUInt64 cs with
    | some n => .int n
    | none =>
      match cs with
      | '-' :: ds =>
        match (readDigits? ds).filter (minInt64 ≤ -·) with
        | some n => .int (-(n : Int))
        | none => .text (String.ofList cs)
      | _ => .text (String.ofList cs)

/-- A quoted text as it is written, from after its opening quote, and what follows its closing
one. -/
def spanQuoted : List Char → Option (List Char × List Char)
  | [] => none
  | '"' :: rest => some ([], rest)
  | '\\' :: c :: rest => (spanQuoted rest).map fun (text, rest) => ('\\' :: c :: text, rest)
  | c :: rest => (spanQuoted rest).map fun (text, rest) => (c :: text, rest)

/-- A control character that no quoted text holds. -/
def isControl (c : Char) : Bool := (c.toNat < 0x20 && c != '\t') || c.toNat == 0x7F

/-- The text whose escapes are read. The fuel bounds the number of characters. -/
def unescape? : Nat → List Char → Option (List Char)
  | _, [] => some []
  | 0, _ => none
  | fuel + 1, '\\' :: rest => do
    let (c, rest) ← readEscape rest
    let text ← unescape? fuel rest
    return c :: text
  | fuel + 1, c :: rest => if isControl c then none else (unescape? fuel rest).map (c :: ·)

/-- The characters that make up so many bytes. -/
def takeBytes? : Nat → List Char → Option (List Char)
  | 0, _ => some []
  | _, [] => none
  | n, c :: rest =>
    if c.utf8Size ≤ n then (takeBytes? (n - c.utf8Size) rest).map (c :: ·) else none

/-- What a quoted text stands for. Of the text before its first escape as many bytes are kept as it
has characters. -/
def content? (written : List Char) : Option (List Char) :=
  let plain := written.takeWhile (· != '\\')
  let escaped := written.drop plain.length
  if plain.any isControl then none
  else if escaped.isEmpty then some plain
  else do
    let kept ← takeBytes? plain.length plain
    let rest ← unescape? escaped.length escaped
    return kept ++ rest

/-- Reads a quoted text from its opening quote. -/
def readQuoted : Reader String := fun cs => do
  let (written, rest) ← spanQuoted (cs.drop 1)
  let text ← content? written
  return (String.ofList text, rest)

/-- Reads a name. -/
def readName : Reader String := fun cs =>
  match cs with
  | '"' :: _ => readQuoted cs
  | _ =>
    match cs.takeWhile isNameChar with
    | [] => none
    | name => some (String.ofList name, cs.dropWhile isNameChar)

mutual

/-- Reads a value, blanks around it included. -/
def readValue : Nat → Reader ConfigTree
  | 0, _ => none
  | fuel + 1, cs => do
    let (t, rest) ← match skipSpace cs with
      | 't' :: 'r' :: 'u' :: 'e' :: rest => some (ConfigTree.bool true, rest)
      | 'f' :: 'a' :: 'l' :: 's' :: 'e' :: rest => some (ConfigTree.bool false, rest)
      | '\x7b' :: rest => (readEntries fuel rest).map fun (es, rest) => (ConfigTree.table es, rest)
      | '[' :: rest => (readItems fuel rest).map fun (ts, rest) => (ConfigTree.list ts, rest)
      | '"' :: rest => (readQuoted ('"' :: rest)).map fun (t, rest) => (ConfigTree.text t, rest)
      | '\'' :: c :: '\'' :: rest => some (ConfigTree.char c, rest)
      | '\'' :: _ => none
      | cs =>
        some (plain (trimChars (cs.takeWhile fun c => !isSeparator c)),
          cs.dropWhile fun c => !isSeparator c)
    return (t, skipSpace rest)

/-- Reads the items of a list up to its end, which may follow a comma. -/
def readItems : Nat → Reader (List ConfigTree)
  | 0, _ => none
  | _, ']' :: rest => some ([], rest)
  | fuel + 1, cs => do
    let (item, rest) ← readValue fuel cs
    match rest with
    | ',' :: rest => do
      let (items, rest) ← readItems fuel rest
      return (item :: items, rest)
    | ']' :: rest => return ([item], rest)
    | _ => none

/-- Reads the entries of a table up to its end, which may follow a comma. Of entries of one name the
last one stands. -/
def readEntries : Nat → Reader (List (String × ConfigTree))
  | 0, _ => none
  | _, '\x7d' :: rest => some ([], rest)
  | fuel + 1, cs => do
    let (name, rest) ← readName (skipSpace cs)
    match skipSpace rest with
    | '=' :: rest => do
      let (t, rest) ← readValue fuel rest
      match rest with
      | ',' :: rest => do
        let (es, rest) ← readEntries fuel rest
        return (if (es.lookup name).isSome then es else (name, t) :: es, rest)
      | '\x7d' :: rest => return ([(name, t)], rest)
      | _ => none
    | _ => none

end

/-- The setting that a value stands for. -/
def value (s : String) : ConfigTree :=
  let cs := s.toList
  match readValue (4 * cs.length + 4) cs with
  | some (t, []) => t
  | _ => .text s

/-- The names of tables and of an entry in the name of a variable. -/
def path : List Char → List (List Char)
  | [] => [[]]
  | '_' :: '_' :: rest => [] :: path rest
  | c :: rest =>
    match path rest with
    | [] => [[c]]
    | name :: names => if c == '.' then [] :: name :: names else (c :: name) :: names

/-- A setting within tables. -/
def nest (t : ConfigTree) : List String → ConfigTree
  | [] => t
  | name :: names => .table [(name, nest t names)]

/-- The settings of a variable, if it is one of the service. -/
def tree? (name content : String) : Option ConfigTree :=
  let cs := trimChars name.toList
  let n := start.length
  if (String.ofList (cs.take n)).toUpper == start then
    let names := path (trimChars (cs.drop n))
    if names.any (·.isEmpty) then none
    else some (nest (value content) (names.map fun p => (String.ofList p).toLower))
  else none

end FlagAlerts.Config.Variable
