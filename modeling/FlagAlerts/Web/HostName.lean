import FlagAlerts.Text.Composition
import FlagAlerts.Text.Direction
import FlagAlerts.Text.Joining
import FlagAlerts.Web.NameMap
import FlagAlerts.Web.Punycode

/-!
# Host names

A host name is a row of labels with dots between them. Its characters are changed to those that
host names are made of, and the text is composed. A label that is marked as ASCII tells another one
by its digits; what it tells must be a label that needs it, and stays as it is when it is prepared.
All labels must be well formed, and where one is written from the right all must keep to the rules
of direction. A label above ASCII is then written in ASCII.
-/

namespace FlagAlerts.Web

open FlagAlerts.Text

namespace HostName

/-- A character that no host name has. -/
def isForbidden (c : Char) : Bool :=
  c.toNat ≤ 0x20 || c.toNat == 0x7F || "#/:<>?@[\\]^|%".toList.contains c

/-- A name as it is meant: its characters changed and composed. -/
def prepare? (cs : List Char) : Option (List Char) :=
  (cs.mapM NameChange.changed?).map fun parts => composed parts.flatten

/-- What a label in ASCII starts with that tells another one. -/
def mark : List Char := ['x', 'n', '-', '-']

/-- The greatest number of characters of a label above ASCII. -/
def maxLabelLength : Nat := 1000

/-- The greatest number of characters after the mark of a label. -/
def maxToldLength : Nat := 2000

/-- Whether a label can be written in ASCII as it is. -/
def isAscii (label : List Char) : Bool := label.all (·.toNat < 0x80)

/-- The label that a label means: what it tells if it is marked, and otherwise itself. -/
def meant? (label : List Char) : Option (List Char) :=
  if mark.isPrefixOf label then
    let text := label.drop mark.length
    if !isAscii text || text.length > maxToldLength || text.getLast?.all (· == '-') then none
    else do
      let told ← Punycode.decode? text
      if isAscii told || prepare? told != some told ||
          told.any (fun c => isForbidden c || c == '.') then none
      else return told
  else some label

/-- The character that parts two letters that would join. -/
def nonJoiner : Char := '\u200c'

/-- The character that joins two letters that would not. -/
def joiner : Char := '\u200d'

/-- Whether the joiners in the rest of a label, given what is before it from its end, stand where
they have a meaning: after a mark that takes away a vowel, or, if they part, between letters that
would join. -/
def joinersFit : List Char → List Char → Bool
  | _, [] => true
  | before, c :: rest =>
    let fits :=
      if c == nonJoiner || c == joiner then
        before.head?.any (fun d => combiningClass d == vowelKillerClass) ||
          (c == nonJoiner && Joining.startsWith .next before &&
            Joining.startsWith .previous rest)
      else true
    fits && joinersFit (c :: before) rest

/-- Whether a label starts with a letter, has its joiners where they belong, and is not too long. -/
def isWellFormed (label : List Char) : Bool :=
  label.head?.all (!isMark ·) && joinersFit [] label &&
    (isAscii label || label.length ≤ maxLabelLength)

/-- Whether a label has a character that is written from the right. -/
def isFromRight (label : List Char) : Bool :=
  label.any fun c => Direction.ofChar c == .right || Direction.ofChar c == .arabicDigit

/-- Whether a label keeps to the rules of direction: it starts with a letter of one direction, has
characters of that one only, ends in a letter or a digit and marks on it, and has digits of one kind
if it is written from the right. -/
def keepsDirection (label : List Char) : Bool :=
  match label.map Direction.ofChar with
  | [] => true
  | first :: rest =>
    let body := (rest.reverse.dropWhile (· == .mark)).reverse
    match first with
    | .left =>
      body.all (fun d => d == .left || d == .digit || d == .neutral || d == .mark) &&
        body.getLast?.all fun d => d == .left || d == .digit
    | .right =>
      body.all (fun d => d != .left && d != .control) && body.getLast?.all (· != .neutral) &&
        !(body.contains .digit && body.contains .arabicDigit)
    | _ => false

/-- The name in ASCII, if it is one of a host. -/
def ascii? (name : List Char) : Option (List Char) := do
  let name ← prepare? name
  if name.any isForbidden then none
  else
    let labels := splitOn '.' name
    let meanings ← labels.mapM meant?
    if meanings.all isWellFormed &&
        (!meanings.any isFromRight || meanings.all keepsDirection) then
      return ['.'].intercalate (labels.map Punycode.encode)
    else none

end HostName

end FlagAlerts.Web
