import FlagAlerts.Text.Utf8
import FlagAlerts.Web.HostName
import FlagAlerts.Web.HostNumber

/-!
# Hosts of web addresses

A host is a name, which is written in ASCII, or a number, which is written in its shortest form. In
an address of a scheme that gives hosts no meaning the host is any text.
-/

namespace FlagAlerts.Web

open FlagAlerts.Text

namespace Host

/-- A character that no host has whose scheme gives it no meaning. -/
def isForbiddenOpaque (c : Char) : Bool :=
  c.toNat == 0 || "\t\n\r #/:<>?@[\\]^|".toList.contains c

/-- The bytes of a text whose escaped bytes are given by their hexadecimal digits. -/
def unescapeBytes : List UInt8 → List UInt8
  | [] => []
  | [a] => [a]
  | [a, b] => [a, b]
  | a :: b :: c :: rest =>
    match hexValue? (Char.ofNat b.toNat), hexValue? (Char.ofNat c.toNat) with
    | some x, some y =>
      if a == 0x25 then UInt8.ofNat (x * 16 + y) :: unescapeBytes rest
      else a :: unescapeBytes (b :: c :: rest)
    | _, _ => a :: unescapeBytes (b :: c :: rest)

/-- The text with its escaped bytes read, if they make up characters. -/
def unescape? (cs : List Char) : Option (List Char) :=
  (symbolsOfBytes (unescapeBytes (bytesOf (String.ofList cs)))).mapM id

/-- The text of a host in square brackets. -/
def bracketed? (cs : List Char) : Option String :=
  match cs.reverse with
  | ']' :: inner => (colonNumber? inner.reverse).map fun ps => "[" ++ colonText ps ++ "]"
  | _ => none

/-- The text of a host. -/
def parse? (cs : List Char) : Option String :=
  match cs with
  | '[' :: rest => bracketed? rest
  | _ => do
    let name ← unescape? cs
    let name ← HostName.ascii? name
    if name.isEmpty then none
    else if endsInNumber name then (dotted? name).map dottedText
    else some (String.ofList name)

/-- One character of a host whose scheme gives it no meaning. -/
def opaqueChar (c : Char) : List Char :=
  if 0x20 ≤ c.toNat && c.toNat < 0x7F then [c]
  else (bytesOf (String.ofList [c])).flatMap fun b =>
    ['%', (hexChar (b.toNat / 16)).toUpper, (hexChar (b.toNat % 16)).toUpper]

/-- The text of a host whose scheme gives it no meaning. -/
def parseOpaque? (cs : List Char) : Option String :=
  match cs with
  | '[' :: rest => bracketed? rest
  | _ => if cs.any isForbiddenOpaque then none else some (String.ofList (cs.flatMap opaqueChar))

end Host

end FlagAlerts.Web
