import FlagAlerts.Calendar.Moment
import FlagAlerts.Config.Tree
import FlagAlerts.Text.Escape

/-!
# Settings files

A settings file is a TOML text: keys with values, grouped under table headers. A key is defined
once; a table may be defined once by a header, or bit by bit by dotted keys of one section.
-/

namespace FlagAlerts.Config.Toml

open FlagAlerts.Text

/-- A reader of the start of a text. -/
abbrev Reader (α : Type) := List Char → Option (α × List Char)

/-! ## Keys and texts -/

/-- A blank within a line. -/
def isBlank (c : Char) : Bool := c == ' ' || c == '\t'

/-- The text after the blanks at its start. -/
def skipBlank (cs : List Char) : List Char := cs.dropWhile isBlank

/-- A control character that no text holds. -/
def isControl (c : Char) : Bool := (c.toNat < 0x20 && c != '\t') || c.toNat == 0x7F

/-- A character that a comment holds. -/
def isComment (c : Char) : Bool := !isControl c

/-- Reads a comment, if there is one, and the end of a line or of the text. -/
def readLineEnd (cs : List Char) : Option (List Char) :=
  let cs := skipBlank cs
  let rest := match cs with
    | '#' :: rest => rest.dropWhile isComment
    | _ => cs
  match rest with
  | [] => some []
  | '\n' :: rest => some rest
  | '\r' :: '\n' :: rest => some rest
  | _ => none

/-- Skips blanks, line ends and comments. -/
def skipLines : Nat → List Char → List Char
  | 0, cs => cs
  | fuel + 1, cs =>
    match skipBlank cs with
    | [] => []
    | c :: rest =>
      if c == '\n' || c == '\r' || c == '#' then
        match readLineEnd (c :: rest) with
        | some rest => skipLines fuel rest
        | none => c :: rest
      else c :: rest

/-- Reads a text from after its opening quote; one without escapes has apostrophes for quotes. -/
def readLine (quote : Char) : Nat → List Char → Option (List Char × List Char)
  | 0, _ => none
  | _, [] => none
  | fuel + 1, c :: rest =>
    if c = quote then some ([], rest)
    else if c == '\\' && quote == '"' then do
      let (x, rest) ← readEscape rest
      let (text, rest) ← readLine quote fuel rest
      return (x :: text, rest)
    else if isControl c then none
    else do
      let (text, rest) ← readLine quote fuel rest
      return (c :: text, rest)

/-- The text after blanks and line ends, of which one must come before anything else. -/
def skipFold (cs : List Char) : Option (List Char) :=
  match skipBlank cs with
  | '\n' :: rest => some (rest.dropWhile fun c => isBlank c || c == '\n' || c == '\r')
  | '\r' :: '\n' :: rest => some (rest.dropWhile fun c => isBlank c || c == '\n' || c == '\r')
  | _ => none

/-- Reads a text of several lines from after its opening quotes. -/
def readBlock (quote : Char) : Nat → List Char → Option (List Char × List Char)
  | 0, _ => none
  | fuel + 1, cs =>
    match cs with
    | [] => none
    | '\r' :: '\n' :: rest => do
      let (text, rest) ← readBlock quote fuel rest
      return ('\n' :: text, rest)
    | c :: rest =>
      if c = quote then
        let run := (c :: rest).takeWhile (· == quote)
        if run.length < 3 then do
          let (text, rest) ← readBlock quote fuel rest
          return (c :: text, rest)
        else if run.length ≤ 5 then some (run.drop 3, (c :: rest).drop run.length)
        else none
      else if c == '\\' && quote == '"' then
        match skipFold rest with
        | some rest => readBlock quote fuel rest
        | none => do
          let (x, rest) ← readEscape rest
          let (text, rest) ← readBlock quote fuel rest
          return (x :: text, rest)
      else if isControl c && c != '\n' then none
      else do
        let (text, rest) ← readBlock quote fuel rest
        return (c :: text, rest)

/-- Reads a text of either kind from its opening quote. -/
def readText : Reader String := fun cs =>
  let close (r : Option (List Char × List Char)) := r.map fun (t, rest) => (String.ofList t, rest)
  match cs with
  | '"' :: '"' :: '"' :: '\n' :: rest => close (readBlock '"' cs.length rest)
  | '"' :: '"' :: '"' :: '\r' :: '\n' :: rest => close (readBlock '"' cs.length rest)
  | '"' :: '"' :: '"' :: rest => close (readBlock '"' cs.length rest)
  | '\'' :: '\'' :: '\'' :: '\n' :: rest => close (readBlock '\'' cs.length rest)
  | '\'' :: '\'' :: '\'' :: '\r' :: '\n' :: rest => close (readBlock '\'' cs.length rest)
  | '\'' :: '\'' :: '\'' :: rest => close (readBlock '\'' cs.length rest)
  | '"' :: rest => close (readLine '"' cs.length rest)
  | '\'' :: rest => close (readLine '\'' cs.length rest)
  | _ => none

/-- A character of a key without quotes. -/
def isKeyChar (c : Char) : Bool := c.isAlphanum || c == '_' || c == '-'

/-- Reads one part of a key. -/
def readKeyPart : Reader String := fun cs =>
  match cs with
  | '"' :: rest => (readLine '"' cs.length rest).map fun (t, rest) => (String.ofList t, rest)
  | '\'' :: rest => (readLine '\'' cs.length rest).map fun (t, rest) => (String.ofList t, rest)
  | _ =>
    match cs.takeWhile isKeyChar with
    | [] => none
    | part => some (String.ofList part, cs.dropWhile isKeyChar)

/-- The greatest number of parts of a key, and of values that contain each other. -/
def maxDepth : Nat := 79

/-- Reads the parts of a key, between dots and maybe blanks. The number bounds them. -/
def readParts : Nat → Reader (List String)
  | 0, _ => none
  | parts + 1, cs => do
    let (part, rest) ← readKeyPart (skipBlank cs)
    match skipBlank rest with
    | '.' :: rest => do
      let (path, rest) ← readParts parts rest
      return (part :: path, rest)
    | rest => return ([part], rest)

/-- Reads a key. -/
def readKey : Reader (List String) := readParts maxDepth

/-! ## Tables -/

/-- How a table came to be. -/
inductive Origin where
  /-- As part of the header of another table. -/
  | implied
  /-- By its header. -/
  | header
  /-- By dotted keys. -/
  | dotted
  /-- Written as a value, and closed. -/
  | inline
  deriving DecidableEq

/-- A value, a table, or a list of tables, last first. -/
inductive Node where
  | value (t : ConfigTree)
  | table (origin : Origin) (entries : List (String × Node))
  | tables (items : List (List (String × Node)))

/-- The entries of a table. -/
abbrev Entries := List (String × Node)

/-- The entries with the node of a name replaced or added. -/
def put (name : String) (node : Node) (entries : Entries) : Entries :=
  if (entries.lookup name).isSome then
    entries.map fun e => if e.1 == name then (name, node) else e
  else entries ++ [(name, node)]

/-- Opens the table of a header, and changes its entries. -/
def openTable (isList : Bool) (change : Entries → Option Entries) :
    List String → Entries → Option Entries
  | [], _ => none
  | [name], entries =>
    match entries.lookup name, isList with
    | none, false => do
      let inner ← change []
      return put name (.table .header inner) entries
    | none, true => do
      let inner ← change []
      return put name (.tables [inner]) entries
    | some (.table .implied inner), false => do
      let inner ← change inner
      return put name (.table .header inner) entries
    | some (.tables items), true => do
      let inner ← change []
      return put name (.tables (inner :: items)) entries
    | _, _ => none
  | name :: path, entries =>
    match entries.lookup name with
    | none => do
      let inner ← openTable isList change path []
      return put name (.table .implied inner) entries
    | some (.table origin inner) => do
      if origin == .inline then none
      let inner ← openTable isList change path inner
      return put name (.table origin inner) entries
    | some (.tables (inner :: items)) => do
      let inner ← openTable isList change path inner
      return put name (.tables (inner :: items)) entries
    | _ => none

/-- Defines the value of a key in a table. A dotted key may lead through tables that headers only
imply, though it does not end in one. -/
def define (node : Node) : List String → Entries → Option Entries
  | [], _ => none
  | [name], entries => if (entries.lookup name).isSome then none else some (put name node entries)
  | name :: path, entries =>
    match entries.lookup name with
    | none => do
      let inner ← define node path []
      return put name (.table .dotted inner) entries
    | some (.table .dotted inner) => do
      let inner ← define node path inner
      return put name (.table .dotted inner) entries
    | some (.table .implied inner) => do
      if path.length = 1 then none
      let inner ← define node path inner
      return put name (.table .implied inner) entries
    | some (.tables (inner :: items)) => do
      if path.length = 1 then none
      let inner ← define node path inner
      return put name (.tables (inner :: items)) entries
    | _ => none

mutual

/-- A node as settings. -/
def toTree : Node → ConfigTree
  | .value t => t
  | .table _ entries => .table (toEntries entries)
  | .tables items => .list (toTables items).reverse

/-- The entries of a table as settings. -/
def toEntries : List (String × Node) → List (String × ConfigTree)
  | [] => []
  | (name, node) :: rest => (name, toTree node) :: toEntries rest

/-- The tables of a list as settings. -/
def toTables : List (List (String × Node)) → List ConfigTree
  | [] => []
  | entries :: rest => .table (toEntries entries) :: toTables rest

end

/-! ## Values -/

/-- The digits of a number whose underscores stand between digits only. -/
def digitsOf? (isDigit : Char → Bool) (cs : List Char) : Option (List Char) :=
  let rec go : Bool → List Char → Option (List Char)
    | afterDigit, [] => if afterDigit then some [] else none
    | afterDigit, '_' :: rest => if afterDigit then go false rest else none
    | _, c :: rest => if isDigit c then (go true rest).map (c :: ·) else none
  go false cs

/-- The digits of a decimal number without zeros before it. -/
def plainDigits? (cs : List Char) : Option (List Char) := do
  let ds ← digitsOf? Char.isDigit cs
  match ds with
  | '0' :: _ :: _ => none
  | _ => some ds

/-- The integer of digits in a base. -/
def ofBase? (base : Nat) (cs : List Char) : Option Int := do
  let ds ← digitsOf? (fun c => (hexValue? c).any (· < base)) cs
  let n := ds.foldl (fun n c => n * base + (hexValue? c).getD 0) 0
  if n ≤ maxInt64 then some n else none

/-- The integer of a word. -/
def int? (cs : List Char) : Option Int :=
  match cs with
  | '0' :: 'x' :: rest => ofBase? 16 rest
  | '0' :: 'o' :: rest => ofBase? 8 rest
  | '0' :: 'b' :: rest => ofBase? 2 rest
  | _ => do
    let (negative, rest) := match cs with
      | '-' :: rest => (true, rest)
      | '+' :: rest => (false, rest)
      | _ => (false, cs)
    let ds ← plainDigits? rest
    let n : Int := ofDigits ds
    let n := if negative then -n else n
    if minInt64 ≤ n && n ≤ maxInt64 then some n else none

/-- The exponent of a number, from its letter on; without one it is zero. -/
def exponent? : List Char → Option Int
  | [] => some 0
  | _ :: '-' :: ds => (digitsOf? Char.isDigit ds).map fun ds => -(ofDigits ds : Int)
  | _ :: '+' :: ds => (digitsOf? Char.isDigit ds).map fun ds => (ofDigits ds : Int)
  | _ :: ds => (digitsOf? Char.isDigit ds).map fun ds => (ofDigits ds : Int)

/-- Whether digits, decimals from their point on and an exponent from its letter on make up a number
that is not above the range of 64-bit floating point. -/
def isNumber (negative : Bool) (whole decimals exponent : List Char) : Bool :=
  let inRange := do
    let ds ← plainDigits? whole
    let tail ← if decimals.isEmpty then some [] else digitsOf? Char.isDigit (decimals.drop 1)
    let e ← exponent? exponent
    return negative || Floating.isInRange (ds ++ tail) (e - tail.length)
  inRange.getD false

/-- Whether a word is a number with a fraction or an exponent. -/
def isFloat (cs : List Char) : Bool :=
  let (negative, body) := match cs with
    | '-' :: rest => (true, rest)
    | '+' :: rest => (false, rest)
    | _ => (false, cs)
  if body = ['i', 'n', 'f'] || body = ['n', 'a', 'n'] then true
  else
    let isExponent (c : Char) : Bool := c == 'e' || c == 'E'
    let mantissa := body.takeWhile fun c => !isExponent c
    let exponent := body.dropWhile fun c => !isExponent c
    let decimals := mantissa.dropWhile (· != '.')
    (!decimals.isEmpty || !exponent.isEmpty) &&
      isNumber negative (mantissa.takeWhile (· != '.')) decimals exponent

/-- The value of a word. -/
def word? (cs : List Char) : Option ConfigTree :=
  if cs = ['t', 'r', 'u', 'e'] then some (.bool true)
  else if cs = ['f', 'a', 'l', 's', 'e'] then some (.bool false)
  else
    match int? cs with
    | some n => some (.int n)
    | none => if isFloat cs then some .fraction else none

/-- The value of a date or a time, which is kept as a table of its text. -/
def ofMoment (text : List Char) : ConfigTree :=
  .table [("$__toml_private_datetime", .text (String.ofList text))]

/-- A character of a word. -/
def isWordChar (c : Char) : Bool := isKeyChar c || c == '+' || c == '.'

mutual

/-- Reads a value at a depth. -/
def readValue (depth : Nat) : Nat → Reader Node
  | 0, _ => none
  | fuel + 1, cs =>
    match cs with
    | '[' :: rest => do
      if depth = maxDepth then none
      let (items, rest) ← readItems (depth + 1) fuel rest
      return (.value (.list (items.map toTree)), rest)
    | '\x7b' :: rest => do
      if depth = maxDepth then none
      let (entries, rest) ← readInline (depth + 1) fuel true [] rest
      return (.table .inline entries, rest)
    | c :: _ =>
      if c == '"' || c == '\'' then do
        let (t, rest) ← readText cs
        return (.value (.text t), rest)
      else
        match Calendar.skipMoment cs with
        | some rest => some (.value (ofMoment (cs.take (cs.length - rest.length))), rest)
        | none => do
          let t ← word? (cs.takeWhile isWordChar)
          return (.value t, cs.dropWhile isWordChar)
    | [] => none

/-- Reads the items of a list up to its end. -/
def readItems (depth : Nat) : Nat → Reader (List Node)
  | 0, _ => none
  | fuel + 1, cs =>
    match skipLines cs.length cs with
    | ']' :: rest => some ([], rest)
    | cs => do
      let (item, rest) ← readValue depth fuel cs
      match skipLines rest.length rest with
      | ']' :: rest => return ([item], rest)
      | ',' :: rest => do
        let (items, rest) ← readItems depth fuel rest
        return (item :: items, rest)
      | _ => none

/-- Reads the entries of a table that is written as a value. -/
def readInline (depth : Nat) : Nat → Bool → Entries → Reader Entries
  | 0, _, _, _ => none
  | fuel + 1, first, entries, cs =>
    match skipBlank cs, first with
    | '\x7d' :: rest, true => some (entries, rest)
    | cs, _ => do
      let (key, rest) ← readKey cs
      match rest with
      | '=' :: rest => do
        let (node, rest) ← readValue depth fuel (skipBlank rest)
        let entries ← define node key entries
        match skipBlank rest with
        | '\x7d' :: rest => return (entries, rest)
        | ',' :: rest => readInline depth fuel false entries rest
        | _ => none
      | _ => none

end

/-! ## Documents -/

/-- Reads the rest of a header from after its opening bracket. -/
def readHeader (cs : List Char) : Option ((Bool × List String) × List Char) := do
  match cs with
  | '[' :: cs => do
    let (path, rest) ← readKey cs
    match rest with
    | ']' :: ']' :: rest => return ((true, path), rest)
    | _ => none
  | _ => do
    let (path, rest) ← readKey cs
    match rest with
    | ']' :: rest => return ((false, path), rest)
    | _ => none

/-- Reads the keys of a section up to the next header. -/
def readSection : Nat → Entries → List Char → Option (Entries × List Char)
  | 0, _, _ => none
  | fuel + 1, entries, cs =>
    match skipLines cs.length cs with
    | [] => some (entries, [])
    | '[' :: rest => some (entries, '[' :: rest)
    | cs => do
      let (key, rest) ← readKey cs
      match rest with
      | '=' :: rest => do
        let (node, rest) ← readValue 0 rest.length (skipBlank rest)
        let rest ← readLineEnd rest
        let entries ← define node key entries
        readSection fuel entries rest
      | _ => none

/-- Reads the sections of a document. -/
def readSections : Nat → Entries → List Char → Option Entries
  | 0, _, _ => none
  | fuel + 1, root, cs =>
    match cs with
    | '[' :: rest => do
      let ((isList, path), rest) ← readHeader rest
      let rest ← readLineEnd rest
      -- The keys of the section are read into the table that its header opens.
      let (_, after) ← readSection (rest.length + 1) [] rest
      let root ← openTable isList
        (fun entries => (readSection (rest.length + 1) entries rest).map (·.1)) path root
      readSections fuel root after
    | [] => some root
    | _ => none

/-- The settings of a file, if its text is well formed. A byte order mark may start it. -/
def parse? (text : String) : Option ConfigTree := do
  let cs := match text.toList with
    | '\uFEFF' :: rest => rest
    | cs => cs
  let (root, rest) ← readSection (cs.length + 1) [] cs
  let root ← readSections (rest.length + 1) root rest
  return .table (toEntries root)

end FlagAlerts.Config.Toml
