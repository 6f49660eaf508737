import FlagAlerts.Json.Document

/-!
# Codecs: one description of a type for writing and reading it

A codec writes values of a type as JSON and reads them from documents. A record is described by the
list of its fields, each with a name, a codec and maybe a default. It is written as a record with
all its fields in order, and read from a record, in which fields may come in any order and unknown
ones are passed over, or from a list of the fields' values in order.
-/

namespace FlagAlerts

/-- Where a document stands: in a text, with the number of lists and records that may still contain
each other, or in a value that was kept aside and whose faults are all mismatches. -/
inductive Place where
  | text (levels : Nat)
  | kept

namespace Place

/-- The place inside a list or a record. -/
def enter : Place → Except Fault Place
  | .text 0 => .error .malformed
  | .text (levels + 1) => .ok (.text levels)
  | .kept => .ok .kept

/-- The lists and records that may contain each other in a whole text. -/
def whole : Place := .text 127

/-- The fault of a document that is kept aside at this place. -/
def faultKept? : Place → Doc → Option Fault
  | .text levels, d => d.faultKept? levels
  | .kept, _ => none

end Place

/-- Succeeds unless there is a fault. -/
def Fault.check : Option Fault → Except Fault Unit
  | none => .ok ()
  | some f => .error f

/-- How a type is written and read. -/
structure Codec (α : Type) where
  encode : α → Json
  decode : Place → Doc → Except Fault α

namespace Codec

variable {α β γ : Type}

/-- Reads a text as a value of the type. -/
def read (c : Codec α) (cs : List Text.Symbol) : Except Fault α := do
  let (d, trailing) := Doc.read cs
  let a ← c.decode .whole d
  Fault.check trailing
  return a

/-- The value's compact text. -/
def write (c : Codec α) (a : α) : String := (c.encode a).compact

/-! ## Plain values -/

/-- Texts. -/
def text : Codec String where
  encode := .text
  decode
    | _, .text (some s) => .ok s
    | _, d => .error d.unexpected

/-- Truth values. -/
def bool : Codec Bool where
  encode := .bool
  decode
    | _, .bool b => .ok b
    | _, d => .error d.unexpected

/-- Numbers of a type that holds some of the integers. -/
def number (toInt : α → Int) (ofInt? : Int → Option α) : Codec α where
  encode a := .int (toInt a)
  decode
    | _, .int n => (ofInt? n).elim (.error .mismatch) .ok
    | _, d => .error d.unexpected

/-- The integer if it lies in the range. -/
def inRange? (lo hi n : Int) : Option Int := if lo ≤ n && n ≤ hi then some n else none

/-- Signed 64-bit numbers. -/
def int64 : Codec Int64 :=
  number Int64.toInt fun n => (inRange? minInt64 maxInt64 n).map Int64.ofInt

/-- Signed 32-bit numbers. -/
def int32 : Codec Int32 :=
  number Int32.toInt fun n => (inRange? minInt32 maxInt32 n).map Int32.ofInt

/-- Unsigned 32-bit numbers. -/
def uint32 : Codec UInt32 :=
  number (fun n => n.toNat) fun n => (inRange? 0 maxUInt32 n).map fun n => UInt32.ofNat n.toNat

/-- Values that may be missing. -/
def option (c : Codec α) : Codec (Option α) where
  encode := Json.ofOption c.encode
  decode
    | _, .null => .ok none
    | place, d => (c.decode place d).map some

/-- Lists. -/
def list (c : Codec α) : Codec (List α) where
  encode items := .list (items.map c.encode)
  decode
    | place, .list items stop => do
      let place ← place.enter
      let values ← items.mapM (c.decode place)
      Fault.check stop
      return values
    | _, d => .error d.unexpected

/-! ## Named cases -/

/-- The name of a case that a document stands for: a text, or a record with the name and null. A
kept value may also have an empty record in place of null. -/
def caseName (place : Place) : Doc → Except Fault String
  | .text (some s) => .ok s
  | .text none => .error .malformed
  | .broken b => .error b.asCase
  | .record entries stop => do
    let inner ← place.enter
    match entries with
    | [] => .error (stop.getD .malformed)
    | (.undecodable, _) :: _ => .error .malformed
    | (.absent b, _) :: _ => .error b.asCase
    | (.text name, value) :: rest =>
      match inner, value with
      | _, .null => pure ()
      | .kept, .record [] _ => pure ()
      | _, d => throw d.unexpected
      match rest with
      | [] => Fault.check stop
      | _ => throw .malformed
      return name
  | _ => .error .malformed

/-- The first pair with the given name. -/
def find? (cases : List (String × α)) (name : String) : Option α :=
  (cases.find? (·.1 == name)).map (·.2)

/-- Types with named cases. An unknown name stands for `other` if there is one. -/
def cases (name : α → String) (all : List α) (other : Option α) : Codec α where
  encode a := .text (name a)
  decode place d := do
    -- A name is looked up as soon as it is read, before what follows it.
    let known (s : String) := (all.find? (name · == s)).or other
    match d with
    | .record ((.text s, _) :: _) _ => if (known s).isNone then throw .mismatch
    | _ => pure ()
    match known (← caseName place d) with
    | some a => return a
    | none => throw .mismatch

end Codec

/-! ## Records -/

/-- The fields of a record: the type of the tuple of what was read so far, and of the values. -/
inductive Fields : Type → Type → Type 1 where
  | nil : Fields Unit Unit
  | cons {α σ β : Type} (name : String) (codec : Codec α) (default : Option α)
      (rest : Fields σ β) : Fields (Option α × σ) (α × β)

namespace Fields

variable {α β σ γ : Type}

/-- A field that must be there. -/
def required (name : String) (codec : Codec α) (rest : Fields σ β) :
    Fields (Option α × σ) (α × β) :=
  .cons name codec none rest

/-- A field that may be left out. -/
def optional (name : String) (codec : Codec α) (default : α) (rest : Fields σ β) :
    Fields (Option α × σ) (α × β) :=
  .cons name codec (some default) rest

/-- No value has been read. -/
def empty : {σ γ : Type} → Fields σ γ → σ
  | _, _, .nil => ()
  | _, _, .cons _ _ _ rest => (none, empty rest)

/-- Reads one entry of a record: a field that has no value yet, or an unknown one, which is passed
over. -/
def put (place : Place) (name : String) (d : Doc) :
    {σ γ : Type} → Fields σ γ → σ → Except Fault σ
  | _, _, .nil, () => Fault.check d.faultPassed?
  | _, _, .cons field codec _ rest, (slot, slots) =>
    if field == name then
      if slot.isSome then .error .mismatch
      else do
        let a ← codec.decode place d
        return (some a, slots)
    else do
      let slots ← put place name d rest slots
      return (slot, slots)

/-- Reads the entries of a record in order. -/
def putAll (place : Place) (fs : Fields σ γ) : List (Key × Doc) → σ → Except Fault σ
  | [], slots => .ok slots
  | (.text name, d) :: rest, slots => do
    let slots ← fs.put place name d slots
    putAll place fs rest slots
  | (.undecodable, _) :: _, _ => .error .malformed
  | (.absent b, _) :: _, _ => .error b.fault

/-- The values of all fields, those that are missing taken from their defaults. -/
def finish : {σ γ : Type} → Fields σ γ → σ → Except Fault γ
  | _, _, .nil, () => .ok ()
  | _, _, .cons _ _ default rest, (slot, slots) => do
    let a ← (slot.or default).elim (.error .mismatch) .ok
    let values ← finish rest slots
    return (a, values)

/-- Reads the values of the fields from a list. -/
def ofItems (place : Place) (stop : Option Fault) :
    {σ γ : Type} → Fields σ γ → List Doc → Except Fault γ
  | _, _, .nil, [] => Fault.check stop
  | _, _, .nil, _ :: _ => .error .malformed
  | _, _, .cons _ _ default rest, [] => do
    Fault.check stop
    let a ← default.elim (.error .mismatch) .ok
    let values ← ofItems place stop rest []
    return (a, values)
  | _, _, .cons _ codec _ rest, d :: items => do
    let a ← codec.decode place d
    let values ← ofItems place stop rest items
    return (a, values)

/-- Writes the values of the fields. -/
def entries : {σ γ : Type} → Fields σ γ → γ → List (String × Json)
  | _, _, .nil, () => []
  | _, _, .cons name codec _ rest, (a, values) => (name, codec.encode a) :: entries rest values

/-- Reads the fields from a document. -/
def decode (place : Place) (fs : Fields σ γ) : Doc → Except Fault γ
  | .record entries stop => do
    let place ← place.enter
    let slots ← fs.putAll place entries fs.empty
    Fault.check stop
    fs.finish slots
  | .list items stop => do
    let place ← place.enter
    fs.ofItems place stop items
  | d => .error d.unexpected

end Fields

namespace Codec

variable {α σ γ : Type}

/-- Records with the given fields. -/
def record (fs : Fields σ γ) (make : γ → α) (parts : α → γ) : Codec α where
  encode a := .record (fs.entries (parts a))
  decode place d := (fs.decode place d).map make

/-! ## Tagged records -/

/-- The entries of a record without those of a tag, whose one value is read where it stands. All
others are kept aside. -/
def splitTag (tag : String) (readTag : Doc → Except Fault α) (place : Place) :
    Option α → List (Key × Doc) → Except Fault (Option α × List (Key × Doc))
  | found, [] => .ok (found, [])
  | _, (.absent b, _) :: _ => .error b.fault
  | _, (.undecodable, _) :: _ => .error .malformed
  | found, (.text name, d) :: rest =>
    if name == tag then
      if found.isSome then .error .mismatch
      else do
        let a ← readTag d
        splitTag tag readTag place (some a) rest
    else do
      Fault.check (place.faultKept? d)
      let (found, others) ← splitTag tag readTag place found rest
      return (found, (.text name, d) :: others)

/-- The first fault of documents that are kept aside. -/
def faultKeptAll? (place : Place) (items : List Doc) : Option Fault :=
  items.findSome? place.faultKept?

/-- Records with a tag, a text that decides how the rest is read. As a list, the tag comes first. -/
def tagged (tag : String) (encode : α → String × List (String × Json))
    (content : String → Option (Doc → Except Fault α)) : Codec α where
  encode a :=
    let (name, fields) := encode a
    .record ((tag, .text name) :: fields)
  decode place d := do
    let readTag (place : Place) (d : Doc) : Except Fault (Doc → Except Fault α) := do
      let name ← text.decode place d
      (content name).elim (throw .mismatch) pure
    let (read, rest) ← match d with
      | .record entries stop => do
        let place ← place.enter
        let (found, others) ← splitTag tag (readTag place) place none entries
        Fault.check stop
        let read ← found.elim (throw .mismatch) pure
        pure (read, Doc.record others none)
      | .list [] stop => do
        let _ ← place.enter
        Fault.check stop
        throw .mismatch
      | .list (first :: items) stop => do
        let place ← place.enter
        let read ← readTag place first
        Fault.check (faultKeptAll? place items)
        Fault.check stop
        pure (read, Doc.list items none)
      | d => throw d.unexpected
    (read rest).mapError fun _ => .mismatch

end Codec

end FlagAlerts
