import FlagAlerts.Web.HostNumber

/-!
# Addresses to listen at

A host number and a port. The number is dotted, or stands in square brackets, where the number of a
network interface may follow it.
-/

namespace FlagAlerts

open FlagAlerts.Text FlagAlerts.Web

/-- The number of a host. -/
inductive HostNumber where
  | dotted (bytes : List Nat)
  | colons (pieces : List Nat) (interface : Nat)
  deriving Repr, DecidableEq, Inhabited

/-- A host and a port. -/
structure SocketAddress where
  host : HostNumber
  port : Nat
  deriving Repr, DecidableEq, Inhabited

namespace SocketAddress

/-- A byte in decimal, without zeros before it. -/
def byte? (cs : List Char) : Option Nat :=
  match cs with
  | ['0'] => some 0
  | '0' :: _ => none
  | _ => if cs.length ≤ 3 then (readDigits? cs).filter (· ≤ 255) else none

/-- A port, which may have zeros before it. -/
def port? (cs : List Char) : Option Nat := (readDigits? cs).filter (· ≤ 65535)

/-- A host number as it stands in square brackets. -/
def bracketed? (cs : List Char) : Option HostNumber := do
  let pieces ← Host.colonNumber? (cs.takeWhile (· != '%'))
  match cs.dropWhile (· != '%') with
  | [] => return .colons pieces 0
  | _ :: interface => do
    let interface ← (readDigits? interface).filter (· ≤ maxUInt32)
    return .colons pieces interface

/-- The address that a text stands for. -/
def parse? (s : String) : Option SocketAddress :=
  match s.toList with
  | '[' :: rest => do
    let host ← bracketed? (rest.takeWhile (· != ']'))
    match rest.dropWhile (· != ']') with
    | ']' :: ':' :: port => do
      let port ← port? port
      return ⟨host, port⟩
    | _ => none
  | cs => do
    match splitOn ':' cs with
    | [host, port] => do
      let bytes ← (splitOn '.' host).mapM byte?
      let port ← port? port
      if bytes.length = 4 then some ⟨.dotted bytes, port⟩ else none
    | _ => none

/-- Whether every machine has the address: it means all addresses of a machine, or the machine
itself. -/
def isLocal (a : SocketAddress) : Bool :=
  match a.host with
  | .dotted [0, 0, 0, 0] => true
  | .dotted (first :: _) => first == 127
  | .colons [0, 0, 0, 0, 0, 0, 0, last] _ => last ≤ 1
  | _ => false

/-- The text of a number that stands in square brackets. -/
def colonText : List Nat → String
  | [0, 0, 0, 0, 0, 0xFFFF, a, b] => "::ffff:" ++ Host.dottedText (a * 65536 + b)
  | pieces => Host.colonText pieces

/-- The text of a host number. -/
def hostText : HostNumber → String
  | .dotted bytes => ".".intercalate (bytes.map decimal)
  | .colons pieces 0 => "[" ++ colonText pieces ++ "]"
  | .colons pieces interface => "[" ++ colonText pieces ++ "%" ++ decimal interface ++ "]"

/-- The text of an address. -/
def text (a : SocketAddress) : String := hostText a.host ++ ":" ++ decimal a.port

end SocketAddress

end FlagAlerts
