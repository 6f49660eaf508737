import FlagAlerts.Numbers
import FlagAlerts.Text.Decimal

/-!
# The range of 64-bit floating point

Which decimal numbers stand for a finite number of 64-bit floating point. There are two ways to
tell: by the number itself, or by its leading digits and a power of ten, each of them rounded first.
-/

namespace FlagAlerts.Floating

open FlagAlerts.Text

/-- The least number that rounds to no finite one. -/
def tooLarge : Nat := (Nat.pow 2 54 - 1) * Nat.pow 2 970

/-- Whether digits with an exponent of ten stand for a number in the range. -/
def isInRange (ds : List Char) (exponent : Int) : Bool :=
  let ds := ds.dropWhile (· == '0')
  let magnitude : Int := ds.length + exponent
  if ds.isEmpty || magnitude < 309 then true
  else if magnitude > 309 then false
  else
    let n := ofDigits ds
    if exponent ≥ 0 then n * Nat.pow 10 exponent.toNat < tooLarge
    else n < tooLarge * Nat.pow 10 exponent.natAbs

/-- The nearest number with at most 53 binary digits before its zeros; of two, the one whose last
digit is even. -/
def nearest (n : Nat) : Nat :=
  let dropped := n.log2 + 1 - 53
  let unit := Nat.pow 2 dropped
  let rest := n % unit
  let isUp := 2 * rest > unit || (2 * rest == unit && n / unit % 2 == 1)
  (if isUp then n / unit + 1 else n / unit) * unit

/-- The number that digits add to the one before them, as long as it fits 64 bits, and the digits
that did not fit. -/
def fill : Nat → List Char → Nat × List Char
  | n, [] => (n, [])
  | n, c :: rest =>
    if n * 10 + digitValue c > maxUInt64 then (n, c :: rest) else fill (n * 10 + digitValue c) rest

/-- Whether the digits of a number before and after its point, with an exponent of ten, stay in the
range when the digits that fit 64 bits and their power of ten are rounded and then multiplied. -/
def staysInRange (whole decimals : List Char) (exponent : Int) : Bool :=
  let (n, dropped) := fill 0 whole
  let (n, ignored) := fill n decimals
  let exponent := exponent + dropped.length - (decimals.length - ignored.length)
  if n = 0 || exponent < 0 then true
  else if exponent > 308 then false
  else nearest n * nearest (Nat.pow 10 exponent.toNat) < tooLarge

end FlagAlerts.Floating
