/-!
# Bytes read as characters

A payload is bytes. Reading it yields one symbol per well-formed UTF-8 sequence, and the symbol
`none` for each byte that belongs to no such sequence, so that nothing is lost and a reader can
decide where malformed bytes matter.
-/

namespace FlagAlerts.Text

/-- A character, or a byte that is part of no character. -/
abbrev Symbol := Option Char

/-- The symbols of a well-formed text. -/
def symbols (s : String) : List Symbol := s.toList.map some

/-- The payload bits of a continuation byte. -/
def continuation? (b : UInt8) : Option Nat :=
  if 0x80 ≤ b.toNat && b.toNat ≤ 0xBF then some (b.toNat - 0x80) else none

/-- The character number that a sequence of the given lead byte and length encodes, if the sequence
is the shortest one for it and the number is a character's. -/
def scalar? (least n : Nat) : Option Char :=
  if least ≤ n && n < 0x110000 && !(0xD800 ≤ n && n ≤ 0xDFFF) then some (Char.ofNat n) else none

/-- The character that starts the bytes, with the number of bytes it takes. -/
def leadingChar? : List UInt8 → Option (Char × Nat)
  | [] => none
  | b :: rest =>
    let n := b.toNat
    if n < 0x80 then some (Char.ofNat n, 1)
    else if 0xC2 ≤ n && n ≤ 0xDF then
      match rest with
      | c :: _ => do
        let c ← continuation? c
        let x ← scalar? 0x80 ((n - 0xC0) * 64 + c)
        return (x, 2)
      | _ => none
    else if 0xE0 ≤ n && n ≤ 0xEF then
      match rest with
      | c :: d :: _ => do
        let c ← continuation? c
        let d ← continuation? d
        let x ← scalar? 0x800 ((n - 0xE0) * 4096 + c * 64 + d)
        return (x, 3)
      | _ => none
    else if 0xF0 ≤ n && n ≤ 0xF4 then
      match rest with
      | c :: d :: e :: _ => do
        let c ← continuation? c
        let d ← continuation? d
        let e ← continuation? e
        let x ← scalar? 0x10000 ((n - 0xF0) * 262144 + c * 4096 + d * 64 + e)
        return (x, 4)
      | _ => none
    else none

/-- The symbols of the bytes after `skip` of them, which belong to the character before. -/
def readSymbols : Nat → List UInt8 → List Symbol
  | _, [] => []
  | skip + 1, _ :: rest => readSymbols skip rest
  | 0, b :: rest =>
    match leadingChar? (b :: rest) with
    | some (c, n) => some c :: readSymbols (n - 1) rest
    | none => none :: readSymbols 0 rest

/-- The symbols of a payload. -/
def symbolsOfBytes (bytes : List UInt8) : List Symbol := readSymbols 0 bytes

/-- The UTF-8 bytes of a text. -/
def bytesOf (s : String) : List UInt8 := s.toUTF8.toList

end FlagAlerts.Text
