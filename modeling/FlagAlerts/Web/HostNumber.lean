import FlagAlerts.Text.Decimal
import FlagAlerts.Text.Split

/-!
# Hosts that are numbers

A number of the fourth version of the protocol has up to four parts with dots between them; one of
the sixth version has eight parts with colons between them, of which a run of zeros may be left out.
Both are written in their shortest form.
-/

namespace FlagAlerts.Web

open FlagAlerts.Text

namespace Host

/-- The number that digits of a base stand for. -/
def ofBase? (base : Nat) (cs : List Char) : Option Nat :=
  cs.foldlM (fun n c => do
    let d ← hexValue? c
    if d < base then some (n * base + d) else none) 0

/-- A part of a dotted number: hexadecimal, octal or decimal. -/
def dottedPart? : List Char → Option Nat
  | [] => none
  | '0' :: 'x' :: rest => ofBase? 16 rest
  | '0' :: 'X' :: rest => ofBase? 16 rest
  | '0' :: d :: rest => ofBase? 8 (d :: rest)
  | cs => ofBase? 10 cs

/-- The parts of a name, without an empty last one. -/
def dottedParts (cs : List Char) : List (List Char) :=
  let parts := splitOn '.' cs
  match parts.reverse with
  | [] :: (p :: ps) => (p :: ps).reverse
  | _ => parts

/-- Whether the last part of a name is a number, so that the whole name has to be one. -/
def endsInNumber (cs : List Char) : Bool :=
  match (dottedParts cs).getLast? with
  | none => false
  | some last =>
    (!last.isEmpty && last.all Char.isDigit) || (dottedPart? last).isSome

/-- The 32-bit number of a dotted number; the last part fills what the others leave. -/
def dotted? (cs : List Char) : Option Nat := do
  let parts ← (dottedParts cs).mapM dottedPart?
  let last ← parts.getLast?
  let others := parts.dropLast
  if others.length > 3 || others.any (· > 255) then none
  let room := 4 - others.length
  if last ≥ Nat.pow 256 room then none
  return others.foldl (fun n p => n * 256 + p) 0 * Nat.pow 256 room + last

/-- The text of a 32-bit number: its four bytes. -/
def dottedText (n : Nat) : String :=
  ".".intercalate ([n / 16777216, n / 65536 % 256, n / 256 % 256, n % 256].map decimal)

/-- The 16-bit number of one to four hexadecimal digits. -/
def piece? (cs : List Char) : Option Nat :=
  if cs.isEmpty || cs.length > 4 then none else ofBase? 16 cs

/-- The two 16-bit numbers of a dotted number of four plain decimal parts. -/
def dottedTail? (cs : List Char) : Option (List Nat) := do
  let parts ← (splitOn '.' cs).mapM fun p =>
    match p with
    | ['0'] => some 0
    | '0' :: _ => none
    | _ => (readDigits? p).filter (· ≤ 255)
  match parts with
  | [a, b, c, d] => some [a * 256 + b, c * 256 + d]
  | _ => none

/-- The 16-bit numbers between colons. The last place may hold a dotted number. -/
def pieces? (cs : List Char) : Option (List Nat) :=
  if cs.isEmpty then some []
  else
    let parts := splitOn ':' cs
    match parts.reverse with
    | [] => some []
    | last :: others => do
      let others ← others.reverse.mapM piece?
      let last ← if last.contains '.' then dottedTail? last else (piece? last).map fun n => [n]
      return others ++ last

/-- The text before and after the first pair of colons. -/
def cutPair : List Char → Option (List Char × List Char)
  | ':' :: ':' :: rest => some ([], rest)
  | c :: rest => (cutPair rest).map fun (a, b) => (c :: a, b)
  | [] => none

/-- The eight 16-bit numbers of a number of the sixth version. -/
def colonNumber? (cs : List Char) : Option (List Nat) :=
  match cutPair cs with
  | none => do
    let pieces ← pieces? cs
    if pieces.length = 8 then some pieces else none
  | some (before, after) => do
    if before.contains '.' then none
    let before ← pieces? before
    let after ← pieces? after
    let missing := 8 - (before.length + after.length)
    if missing = 0 then none
    else some (before ++ List.replicate missing 0 ++ after)

/-- The first longest run of zeros: its start and its length. -/
def longestZeros (pieces : List Nat) : Nat × Nat :=
  ((List.range pieces.length).map fun i =>
    (i, ((pieces.drop i).takeWhile (· == 0)).length)).foldl
      (fun best run => if run.2 > best.2 then run else best) (0, 0)

/-- The text of a number of the sixth version, its longest run of zeros left out. -/
def colonText (pieces : List Nat) : String :=
  let join (ps : List Nat) := ":".intercalate (ps.map fun p => String.ofList (hexDigits p))
  let (start, length) := longestZeros pieces
  if length < 2 then join pieces
  else join (pieces.take start) ++ "::" ++ join (pieces.drop (start + length))

end Host

end FlagAlerts.Web
