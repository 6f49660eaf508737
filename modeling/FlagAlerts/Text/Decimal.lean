import FlagAlerts.Numbers

/-!
# Decimal numerals

Writing a number in decimal, plain or padded with zeros, and reading one back. A numeral may start
with a plus sign, has at least one digit, and may have leading zeros.
-/

namespace FlagAlerts.Text

/-- The digit of value `d`, for `d` below ten. -/
def digitChar (d : Nat) : Char := Char.ofNat (0x30 + d)

/-- The value of a decimal digit. -/
def digitValue (c : Char) : Nat := c.toNat - 0x30

/-- The decimal digits of a number, most significant first. -/
def digits (n : Nat) : List Char :=
  if n < 10 then [digitChar n] else digits (n / 10) ++ [digitChar (n % 10)]
termination_by n
decreasing_by omega

/-- The number that a list of decimal digits stands for. -/
def ofDigits (cs : List Char) : Nat := cs.foldl (fun n c => 10 * n + digitValue c) 0

/-- A number in decimal. -/
def decimal (n : Nat) : String := String.ofList (digits n)

/-- An integer in decimal, with a minus sign below zero. -/
def decimalInt : Int → String
  | .ofNat n => decimal n
  | .negSucc n => "-" ++ decimal (n + 1)

/-- The digits of a number, with zeros before them up to the given width. -/
def paddedDigits (width n : Nat) : List Char :=
  List.replicate (width - (digits n).length) '0' ++ digits n

/-- A number in decimal, with zeros before it up to the given width. -/
def padded (width n : Nat) : String := String.ofList (paddedDigits width n)

/-- An integer in decimal, with zeros after its sign up to the given width, sign included. -/
def paddedInt (width : Nat) : Int → String
  | .ofNat n => padded width n
  | .negSucc n => "-" ++ padded (width - 1) (n + 1)

/-- A whole number of seconds. -/
def secondsText (n : Nat) : String := if n = 0 then "0ns" else decimal n ++ "s"

/-- A nonempty run of digits and nothing else, as a number. -/
def readDigits? (cs : List Char) : Option Nat :=
  if !cs.isEmpty && cs.all Char.isDigit then some (ofDigits cs) else none

/-- A numeral with an optional plus sign, as a number of at most `limit`. -/
def readNat? (limit : Nat) (cs : List Char) : Option Nat :=
  let body := match cs with
    | '+' :: rest => rest
    | _ => cs
  (readDigits? body).filter (· ≤ limit)

/-- The lower-case hexadecimal digit of value `d`, for `d` below sixteen. -/
def hexChar (d : Nat) : Char := if d < 10 then digitChar d else Char.ofNat (0x57 + d)

/-- The lower-case hexadecimal digits of a number, most significant first. -/
def hexDigits (n : Nat) : List Char :=
  if n < 16 then [hexChar n] else hexDigits (n / 16) ++ [hexChar (n % 16)]
termination_by n
decreasing_by omega

/-- The value of a hexadecimal digit, in either case. -/
def hexValue? (c : Char) : Option Nat :=
  let n := c.toNat
  if 0x30 ≤ n && n ≤ 0x39 then some (n - 0x30)
  else if 0x41 ≤ n && n ≤ 0x46 then some (n - 0x37)
  else if 0x61 ≤ n && n ≤ 0x66 then some (n - 0x57)
  else none

end FlagAlerts.Text
