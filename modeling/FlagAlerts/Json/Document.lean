import FlagAlerts.Floating
import FlagAlerts.Json.Value
import FlagAlerts.Text.Utf8

/-!
# JSON texts, read as far as they make sense

Reading a text yields a document: the value it stands for, with the places marked where it stops
being JSON. Whether such a place matters depends on who looks at the document, since a reader that
passes over a field meets fewer of them than one that keeps it. The first one met, from left to
right, is the fault reported.
-/

namespace FlagAlerts

open FlagAlerts.Text

/-- Why a text was not read: it is not JSON, it is JSON of another shape than asked for, or it ends
too early. -/
inductive Fault where
  | malformed
  | mismatch
  | truncated
  deriving Repr, DecidableEq, Inhabited

/-- A place where a text stops being JSON. Its fault depends on what is wanted there: a value or the
name of a field, the name of a case, or nothing, when the place is passed over. -/
structure Break where
  fault : Fault
  asCase : Fault
  passed : Fault
  deriving Repr, DecidableEq, Inhabited

/-- The place of a fault that is the same whatever is wanted. -/
def Break.plain (f : Fault) : Break := ⟨f, f, f⟩

/-- What stands where a record has a name. -/
inductive Key where
  | text (name : String)
  /-- A quoted name with an escape that stands for no character. -/
  | undecodable
  /-- No quoted name. -/
  | absent (b : Break)
  deriving Repr, Inhabited

/-- A text read as JSON, as far as possible. -/
inductive Doc where
  | null
  | bool (b : Bool)
  | int (n : Int)
  /-- A number that is not a 64-bit integer, and whether it is in the range of the numbers. -/
  | fraction (inRange : Bool)
  /-- A quoted text; none if an escape in it stands for no character. -/
  | text (s : Option String)
  | list (items : List Doc) (stop : Option Fault)
  | record (entries : List (Key × Doc)) (stop : Option Fault)
  /-- No value. -/
  | broken (b : Break)
  deriving Repr, Inhabited

namespace Doc

/-- A blank between the parts of a text. -/
def isSpace (c : Char) : Bool := c == ' ' || c == '\n' || c == '\t' || c == '\r'

/-- The symbols after the blanks at the start. -/
def skipSpace (cs : List Symbol) : List Symbol :=
  cs.dropWhile fun c => c.any isSpace

/-! ## Texts -/

/-- The character that a backslash and the letter stand for. -/
def unescape? : Char → Option Char
  | '"' => some '"'
  | '\\' => some '\\'
  | '/' => some '/'
  | 'b' => some '\x08'
  | 'f' => some '\x0c'
  | 'n' => some '\n'
  | 'r' => some '\r'
  | 't' => some '\t'
  | _ => none

/-- The number that four hexadecimal digits stand for. -/
def hex4? (a b c d : Symbol) : Option Nat := do
  let a ← hexValue? (← a)
  let b ← hexValue? (← b)
  let c ← hexValue? (← c)
  let d ← hexValue? (← d)
  return ((a * 16 + b) * 16 + c) * 16 + d

/-- The number of bytes of the symbols. -/
def byteCount (cs : List Symbol) : Nat :=
  total (cs.map fun c => match c with | some c => c.utf8Size | none => 1)

/-- What was read of a text so far. -/
inductive TextSoFar where
  /-- The characters, last first, if there were no bytes that make up none, and the first half of a
  pair of escapes that is still open. -/
  | read (chars : Option (List Char)) (half : Option Nat)
  /-- An escape that stands for no character. -/
  | lone

namespace TextSoFar

/-- Nothing was read so far. -/
def start : TextSoFar := .read (some []) none

/-- A plain character follows. -/
def push (c : Char) : TextSoFar → TextSoFar
  | .read cs none => .read (cs.map (c :: ·)) none
  | _ => .lone

/-- A byte that is part of no character follows. -/
def pushByte : TextSoFar → TextSoFar
  | .read _ none => .read none none
  | _ => .lone

/-- The escape of a 16-bit number follows: a character, or half of one. -/
def pushUnit (n : Nat) : TextSoFar → TextSoFar
  | .read cs none =>
    if 0xD800 ≤ n && n ≤ 0xDBFF then .read cs (some n)
    else if 0xDC00 ≤ n && n ≤ 0xDFFF then .lone
    else .read (cs.map (Char.ofNat n :: ·)) none
  | .read cs (some high) =>
    if 0xDC00 ≤ n && n ≤ 0xDFFF then
      .read (cs.map (Char.ofNat (0x10000 + (high - 0xD800) * 0x400 + (n - 0xDC00)) :: ·)) none
    else .lone
  | .lone => .lone

/-- The text, once it is closed. -/
def close : TextSoFar → Option String
  | .read (some cs) none => some (String.ofList cs.reverse)
  | _ => none

/-- The text ends here without being closed. An escape that stands for no character comes first. -/
def truncated : TextSoFar → Break
  | .read _ _ => ⟨.truncated, .truncated, .truncated⟩
  | .lone => ⟨.malformed, .malformed, .truncated⟩

end TextSoFar

/-- Reads a text from after its opening quote, and gives what follows its closing one. -/
def readText (soFar : TextSoFar) : List Symbol → Except Break (Option String × List Symbol)
  | [] => .error soFar.truncated
  | some '"' :: rest => .ok (soFar.close, rest)
  | [some '\\'] => .error soFar.truncated
  | some '\\' :: some 'u' :: a :: b :: c :: d :: rest =>
    match hex4? a b c d with
    | some n => readText (soFar.pushUnit n) rest
    | none => .error (.plain .malformed)
  | some '\\' :: some c :: rest =>
    match unescape? c with
    | some x => readText (soFar.push x) rest
    | none => .error (if c == 'u' && byteCount rest < 4 then soFar.truncated else .plain .malformed)
  | some '\\' :: none :: _ => .error (.plain .malformed)
  | some c :: rest =>
    if c.toNat < 0x20 then .error (.plain .malformed) else readText (soFar.push c) rest
  | none :: rest => readText soFar.pushByte rest

/-! ## Numbers -/

/-- Whether the symbol is a decimal digit. -/
def isDigit (c : Symbol) : Bool := c.any Char.isDigit

/-- The digits at the start, and what follows them. -/
def spanDigits (cs : List Symbol) : List Char × List Symbol :=
  ((cs.takeWhile isDigit).filterMap id, cs.dropWhile isDigit)

/-- The digits at the start, of which there must be one. -/
def readDigits (cs : List Symbol) : Except Fault (List Char × List Symbol) :=
  match spanDigits cs with
  | ([], []) => .error .truncated
  | ([], _) => .error .malformed
  | r => .ok r

/-- The fraction of a number, if there is one. -/
def readFraction : List Symbol → Except Fault (Option (List Char) × List Symbol)
  | some '.' :: rest => do
    let (ds, rest) ← readDigits rest
    return (some ds, rest)
  | rest => .ok (none, rest)

/-- The exponent of a number, if there is one. -/
def readExponent : List Symbol → Except Fault (Option Int × List Symbol)
  | some e :: rest =>
    if e == 'e' || e == 'E' then do
      let (negative, rest) := match rest with
        | some '-' :: rest => (true, rest)
        | some '+' :: rest => (false, rest)
        | _ => (false, rest)
      let (ds, rest) ← readDigits rest
      let n : Int := ofDigits ds
      return (some (if negative then -n else n), rest)
    else .ok (none, some e :: rest)
  | rest => .ok (none, rest)

/-- The number that a sign, digits, a fraction and an exponent stand for. -/
def ofNumber (negative : Bool) (ds : List Char) (decimals : Option (List Char))
    (exponent : Option Int) : Doc :=
  let whole : Int := if negative then -(ofDigits ds : Int) else ofDigits ds
  if decimals.isNone && exponent.isNone && minInt64 ≤ whole && whole ≤ maxUInt64 &&
      !(negative && whole == 0) then .int whole
  else
    .fraction (Floating.staysInRange ds (decimals.getD []) (exponent.getD 0))

/-- The digits before the fraction: a lone zero, or digits that do not start with one. -/
def readWhole (cs : List Symbol) : Except Fault (List Char × List Symbol) := do
  let (ds, rest) ← readDigits cs
  match ds with
  | '0' :: _ :: _ => .error .malformed
  | _ => return (ds, rest)

/-- Reads a number. -/
def readNumber (cs : List Symbol) : Except Fault (Doc × List Symbol) := do
  let (negative, cs) := match cs with
    | some '-' :: rest => (true, rest)
    | _ => (false, cs)
  let (ds, rest) ← readWhole cs
  let (decimals, rest) ← readFraction rest
  let (exponent, rest) ← readExponent rest
  return (ofNumber negative ds decimals exponent, rest)

/-! ## Values -/

/-- What was read, with what follows it; nothing does once the text stopped being JSON. -/
abbrev Read (α : Type) := α × Option (List Symbol)

/-- Reads the rest of a word that stands for a value. -/
def readWord (value : Doc) : List Char → List Symbol → Read Doc
  | [], rest => (value, some rest)
  | _ :: _, [] => (.broken ⟨.truncated, .malformed, .truncated⟩, none)
  | c :: cs, s :: rest =>
    if s = some c then readWord value cs rest else (.broken (.plain .malformed), none)

/-- The fault of a document where a text, a number or a truth value of another kind was wanted. -/
def unexpected : Doc → Fault
  | .broken b => b.fault
  | .fraction false => .malformed
  | .text none => .malformed
  | _ => .mismatch

/-- The document of what was read without fault, or else the broken one. -/
def ofRead : Except Break (Doc × List Symbol) → Read Doc
  | .ok (d, rest) => (d, some rest)
  | .error b => (.broken b, none)

/-- The place where a number breaks off. Whether it only ends too early matters where its value is
wanted. -/
def numberBreak (f : Fault) : Break := ⟨f, .malformed, .malformed⟩

/-- A record's entry that breaks off. -/
def brokenEntry (key : Key) (f : Fault) : Read (List (Key × Doc) × Option Fault) :=
  (([(key, .broken (.plain f))], none), none)

/-- A record's entry that breaks off in its name. -/
def namelessEntry (b : Break) : Read (List (Key × Doc) × Option Fault) :=
  (([(.absent b, .broken b)], none), none)

mutual

/-- Reads a value, blanks before it included. -/
def readValue : Nat → List Symbol → Read Doc
  | 0, _ => (.broken (.plain .malformed), none)
  | fuel + 1, cs =>
    match skipSpace cs with
    | [] => (.broken (.plain .truncated), none)
    | some '"' :: rest =>
      ofRead ((readText .start rest).map fun (s, rest) => (.text s, rest))
    | some '[' :: rest =>
      let ((items, stop), rest) := readItems fuel true rest
      (.list items stop, rest)
    | some '\x7b' :: rest =>
      let ((entries, stop), rest) := readEntries fuel true rest
      (.record entries stop, rest)
    | some 'n' :: rest => readWord .null ['u', 'l', 'l'] rest
    | some 't' :: rest => readWord (.bool true) ['r', 'u', 'e'] rest
    | some 'f' :: rest => readWord (.bool false) ['a', 'l', 's', 'e'] rest
    | c :: rest =>
      if c = some '-' || isDigit c then ofRead ((readNumber (c :: rest)).mapError numberBreak)
      else (.broken (.plain .malformed), none)

/-- Reads the items of a list up to its end, from its start or else from after an item. -/
def readItems : Nat → Bool → List Symbol → Read (List Doc × Option Fault)
  | 0, _, _ => (([], some .malformed), none)
  | fuel + 1, first, cs =>
    match skipSpace cs with
    | [] => (([], some .truncated), none)
    | some ']' :: rest => (([], none), some rest)
    | c :: rest =>
      if first then readItem fuel (c :: rest)
      else if c = some ',' then
        match skipSpace rest with
        | some ']' :: _ => (([], some .malformed), none)
        | rest => readItem fuel rest
      else (([], some .malformed), none)

/-- Reads an item of a list and the items after it. -/
def readItem : Nat → List Symbol → Read (List Doc × Option Fault)
  | 0, _ => (([], some .malformed), none)
  | fuel + 1, cs =>
    match readValue fuel cs with
    | (item, none) => (([item], none), none)
    | (item, some rest) =>
      let ((items, stop), rest) := readItems fuel false rest
      ((item :: items, stop), rest)

/-- Reads the entries of a record up to its end, from its start or else from after an entry. -/
def readEntries : Nat → Bool → List Symbol → Read (List (Key × Doc) × Option Fault)
  | 0, _, _ => (([], some .malformed), none)
  | fuel + 1, first, cs =>
    match skipSpace cs with
    | [] => (([], some .truncated), none)
    | some '\x7d' :: rest => (([], none), some rest)
    | c :: rest =>
      if first then readEntry fuel (c :: rest)
      else if c = some ',' then readEntry fuel (skipSpace rest)
      else (([], some .malformed), none)

/-- Reads an entry of a record and the entries after it. -/
def readEntry : Nat → List Symbol → Read (List (Key × Doc) × Option Fault)
  | 0, _ => (([], some .malformed), none)
  | _ + 1, [] => namelessEntry (.plain .truncated)
  | fuel + 1, some '"' :: rest =>
    match readText .start rest with
    | .error b => namelessEntry b
    | .ok (name, rest) =>
      let key := name.elim .undecodable .text
      match skipSpace rest with
      | [] => brokenEntry key .truncated
      | some ':' :: rest =>
        match readValue fuel rest with
        | (value, none) => (([(key, value)], none), none)
        | (value, some rest) =>
          let ((entries, stop), rest) := readEntries fuel false rest
          (((key, value) :: entries, stop), rest)
      | _ => brokenEntry key .malformed
  | _ + 1, _ => namelessEntry (.plain .malformed)

end

/-- Reads a whole text: its document, and the fault of what follows it. -/
def read (cs : List Symbol) : Doc × Option Fault :=
  match readValue (3 * cs.length + 3) cs with
  | (d, none) => (d, none)
  | (d, some rest) => (d, if (skipSpace rest).isEmpty then none else some .malformed)

/-! ## Faults -/

mutual

/-- The first fault of a document that is passed over. -/
def faultPassed? : Doc → Option Fault
  | .broken b => some b.passed
  | .list items stop => (faultPassedItems? items).or stop
  | .record entries stop => (faultPassedEntries? entries).or stop
  | _ => none

/-- The first fault of the items of a list that is passed over. -/
def faultPassedItems? : List Doc → Option Fault
  | [] => none
  | d :: ds => (faultPassed? d).or (faultPassedItems? ds)

/-- The first fault of the entries of a record that is passed over. -/
def faultPassedEntries? : List (Key × Doc) → Option Fault
  | [] => none
  | (.absent b, _) :: _ => some b.passed
  | (_, d) :: rest => (faultPassed? d).or (faultPassedEntries? rest)

end

mutual

/-- The first fault of a document that is kept, if no more than the given number of lists and
records may contain each other. -/
def faultKept? (levels : Nat) : Doc → Option Fault
  | .broken b => some b.fault
  | .fraction inRange => if inRange then none else some .malformed
  | .text s => if s.isSome then none else some .malformed
  | .list items stop =>
    if levels = 0 then some .malformed else (faultKeptItems? (levels - 1) items).or stop
  | .record entries stop =>
    if levels = 0 then some .malformed else (faultKeptEntries? (levels - 1) entries).or stop
  | _ => none

/-- The first fault of the items of a list that is kept. -/
def faultKeptItems? (levels : Nat) : List Doc → Option Fault
  | [] => none
  | d :: ds => (faultKept? levels d).or (faultKeptItems? levels ds)

/-- The first fault of the entries of a record that is kept. -/
def faultKeptEntries? (levels : Nat) : List (Key × Doc) → Option Fault
  | [] => none
  | (.absent b, _) :: _ => some b.fault
  | (.undecodable, _) :: _ => some .malformed
  | (.text _, d) :: rest => (faultKept? levels d).or (faultKeptEntries? levels rest)

end

end Doc

mutual

/-- The document of a value's text. -/
def Json.doc : Json → Doc
  | .null => .null
  | .bool b => .bool b
  | .int n => if minInt64 ≤ n && n ≤ maxUInt64 then .int n else .fraction true
  | .text s => .text (some s)
  | .list items => .list (Json.docItems items) none
  | .record fields => .record (Json.docEntries fields) none

/-- The documents of the items of a list. -/
def Json.docItems : List Json → List Doc
  | [] => []
  | item :: items => Json.doc item :: Json.docItems items

/-- The documents of the fields of a record. -/
def Json.docEntries : List (String × Json) → List (Key × Doc)
  | [] => []
  | (name, value) :: fields => (.text name, Json.doc value) :: Json.docEntries fields

end

end FlagAlerts
