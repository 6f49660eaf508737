import FlagAlerts.Web.Host

/-!
# Web addresses without their secrets

Of a web address only the scheme and the host may be shown: its path, its query and its account may
be secret. A text that is no web address shows nothing.
-/

namespace FlagAlerts.Web

open FlagAlerts.Text

/-- What may be shown of a web address; the host is empty if there is none. -/
structure Origin where
  scheme : String
  host : String
  deriving Repr, DecidableEq, Inhabited

namespace Origin

/-- The schemes whose addresses must have a host. -/
def hostSchemes : List String := ["http", "https", "ws", "wss", "ftp"]

/-- How a scheme reads what follows it. -/
inductive Kind where
  | host
  | file
  | other
  deriving DecidableEq

/-- How a scheme reads what follows it. -/
def kindOf (scheme : String) : Kind :=
  if hostSchemes.contains scheme then .host else if scheme == "file" then .file else .other

/-- A character that may stand in a scheme after its first letter. -/
def isSchemeChar (c : Char) : Bool := c.isAlphanum || c == '+' || c == '-' || c == '.'

/-- The text without control characters and spaces at its ends, and without line breaks and tabs. -/
def clean (s : String) : List Char :=
  let isEdge (c : Char) : Bool := c.toNat ≤ 0x20
  let cs := ((s.toList.dropWhile isEdge).reverse.dropWhile isEdge).reverse
  cs.filter fun c => c != '\t' && c != '\n' && c != '\r'

/-- The scheme in lower case, and what follows it. -/
def splitScheme? (cs : List Char) : Option (String × List Char) :=
  match cs with
  | c :: _ =>
    if c.isAlpha then
      match cs.dropWhile isSchemeChar with
      | ':' :: rest => some ((String.ofList (cs.takeWhile isSchemeChar)).toLower, rest)
      | _ => none
    else none
  | [] => none

/-- Whether a character separates parts of a path. -/
def isSlash (kind : Kind) (c : Char) : Bool := c == '/' || (kind != .other && c == '\\')

/-- Whether a character ends the part of an address that names its host. -/
def endsAuthority (kind : Kind) (c : Char) : Bool := isSlash kind c || c == '?' || c == '#'

/-- The text after its last at sign, and whether there is a name or a password before it. -/
def dropAccount (cs : List Char) : List Char × Bool :=
  if cs.contains '@' then
    let rest := (cs.reverse.takeWhile (· != '@')).reverse
    let account := cs.take (cs.length - rest.length - 1)
    (rest, account != [] && account != [':'])
  else (cs, false)

/-- The host, up to a colon that is not in brackets, and what follows it. -/
def splitHost : Bool → List Char → List Char × List Char
  | _, [] => ([], [])
  | inside, c :: rest =>
    if c == ':' && !inside then ([], c :: rest)
    else
      let inside := if c == '[' then true else if c == ']' then false else inside
      let (host, tail) := splitHost inside rest
      (c :: host, tail)

/-- Whether the text is empty or a port. A backslash that does not end the authority ends it. -/
def isPort : List Char → Bool
  | [] => true
  | ':' :: cs =>
    ofDigits (cs.takeWhile Char.isDigit) ≤ 65535 &&
      (cs.dropWhile Char.isDigit).head?.all (· == '\\')
  | _ => false

/-- The host of an authority. One that is only an at sign must not have anything behind it. -/
def hostOf? (kind : Kind) (authority : List Char) (isLast : Bool) : Option String := do
  let (rest, hasAccount) := dropAccount authority
  let (host, port) := splitHost false rest
  if host.isEmpty then
    let isBare := authority == ['@'] && !isLast
    if kind == .host || !port.isEmpty || hasAccount || isBare then none else some ""
  else
    let text ← if kind == .other then Host.parseOpaque? host else Host.parse? host
    if isPort port then some text else none

/-- Whether a text is a drive letter with its mark. -/
def isDrive : List Char → Bool
  | [c, m] => c.isAlpha && (m == ':' || m == '|')
  | _ => false

/-- The ways to write the part of a path that means the part before it, in lower case. -/
def upParts : List String := ["..", ".%2e", "%2e.", "%2e%2e"]

/-- The ways to write the part of a path that means nothing, in lower case. -/
def idleParts : List String := [".", "%2e"]

/-- Whether the first part of a path, as far as its parts are read, is a drive at some time. The
parts that are left of those read so far are given from their end; a drive is never left again. -/
def reachesDrive : List (List Char) → List (List Char) → Bool
  | _, [] => false
  | left, part :: rest =>
    let written := (String.ofList part).toLower
    if upParts.contains written then
      reachesDrive (if left.head?.any isDrive then left else left.tail) rest
    else if idleParts.contains written then reachesDrive left rest
    else if left.isEmpty && isDrive part then true
    else reachesDrive (part :: left) rest

/-- The parts of a path, without the slash that it starts with. -/
def pathParts (path : List Char) : List (List Char) :=
  let path := path.map fun c => if c == '\\' then '/' else c
  splitOn '/' (if path.head? == some '/' then path.tail else path)

/-- The host of a file, from after its scheme. A local file has none, and neither has one on a
drive. -/
def fileHost? (cs : List Char) : Option String :=
  match cs with
  | a :: b :: rest =>
    if isSlash .file a && isSlash .file b then
      let host := rest.takeWhile (!endsAuthority .file ·)
      if host.isEmpty || isDrive host then some ""
      else do
        let text ← Host.parse? host
        let path := (rest.drop host.length).takeWhile fun c => c != '?' && c != '#'
        some (if text == "localhost" || reachesDrive [] (pathParts path) then "" else text)
    else some ""
  | _ => some ""

/-- What may be shown of an address. -/
def parse? (s : String) : Option Origin := do
  let (scheme, rest) ← splitScheme? (clean s)
  let kind := kindOf scheme
  let hostAt? (cs : List Char) : Option String :=
    let authority := cs.takeWhile fun c => !endsAuthority kind c
    hostOf? kind authority (authority.length == cs.length)
  let host ← match kind with
    | .host => hostAt? (rest.dropWhile (isSlash kind))
    | .file => fileHost? rest
    | .other =>
      match rest with
      | '/' :: '/' :: rest => hostAt? rest
      | _ => some ""
  return ⟨scheme, host⟩

end Origin

/-- The text of an address without its secrets. -/
def redact (address : String) : String :=
  match Origin.parse? address with
  | some o => o.scheme ++ "://" ++ o.host ++ "/***"
  | none => "***"

end FlagAlerts.Web
