import FlagAlerts.Config.Tree
import FlagAlerts.Text.Decimal

/-!
# Settings: one description for writing and reading them

A setting writes values of a type as JSON and reads them from a tree. A section is described by the
list of its settings with their names. It is read from a table or from a list. The entries of a
table are read in the order of their names, unknown ones passed over, and only then a missing one is
noticed; the items of a list are the settings in their order.
-/

namespace FlagAlerts

/-- How a setting is written and read. A section that is a list may have more items than settings,
unless the reading is strict. -/
structure Setting (α : Type) where
  write : α → Json
  read : (strict : Bool) → ConfigTree → Except ConfigFault α

/-- The settings of a section: each has a name and a type. -/
inductive Settings : Type → Type 1 where
  | nil : Settings Unit
  | cons {α β : Type} (name : String) (setting : Setting α) (rest : Settings β) : Settings (α × β)

namespace Settings

variable {α β σ : Type}

/-- Reads a setting that stands under a name. -/
def within (name : String) (r : Except ConfigFault α) : Except ConfigFault α :=
  r.mapError fun f => { f with path := name :: f.path }

/-- Writes the settings of a section. -/
def entries : {σ : Type} → Settings σ → σ → List (String × Json)
  | _, .nil, () => []
  | _, .cons name setting rest, (a, values) => (name, setting.write a) :: entries rest values

/-- Reads one entry of a table for its fault only. -/
def check (strict : Bool) (name : String) (t : ConfigTree) :
    {σ : Type} → Settings σ → Except ConfigFault Unit
  | _, .nil => .ok ()
  | _, .cons field setting rest =>
    if field == name then within name ((setting.read strict t).map fun _ => ())
    else check strict name t rest

/-- Reads the settings from the entries of a table, all of which are there. -/
def ofEntries (strict : Bool) (table : List (String × ConfigTree)) :
    {σ : Type} → Settings σ → Except ConfigFault σ
  | _, .nil => .ok ()
  | _, .cons name setting rest => do
    let a ← match table.lookup name with
      | some t => within name (setting.read strict t)
      | none => .error ⟨.missing, []⟩
    let values ← ofEntries strict table rest
    return (a, values)

/-- Reads the settings from the items of a list, from a place on. -/
def ofItems (strict : Bool) : {σ : Type} → Settings σ → Nat → List ConfigTree → Except ConfigFault σ
  | _, .nil, _, items => if strict && !items.isEmpty then .error ⟨.length, []⟩ else .ok ()
  | _, .cons .., _, [] => .error ⟨.length, []⟩
  | _, .cons _ setting rest, place, t :: items => do
    let a ← within (Text.decimal place) (setting.read strict t)
    let values ← ofItems strict rest (place + 1) items
    return (a, values)

/-- Reads the settings from a tree. -/
def read (strict : Bool) (fields : Settings σ) : ConfigTree → Except ConfigFault σ
  | .table table => do
    for (name, t) in ConfigTree.byName table do
      fields.check strict name t
    fields.ofEntries strict table
  | .list items => fields.ofItems strict 0 items
  | _ => .error ⟨.type, []⟩

end Settings

namespace Setting

variable {α σ : Type}

/-- A section, whose values are made of those of its settings. -/
def record (fields : Settings σ) (make : σ → α) (parts : α → σ) : Setting α where
  write a := .record (fields.entries (parts a))
  read strict t := (fields.read strict t).map make

/-- Texts. -/
def text : Setting String where
  write := .text
  read
    | _, .text s => .ok s
    | _, .char c => .ok (String.ofList [c])
    | _, _ => .error ⟨.type, []⟩

/-- Texts of a form. -/
def formed (write : α → String) (parse? : String → Option α) : Setting α where
  write a := .text (write a)
  read strict t := do
    let s ← text.read strict t
    (parse? s).elim (.error ⟨.text, []⟩) .ok

/-- Truth values. -/
def bool : Setting Bool where
  write := .bool
  read
    | _, .bool b => .ok b
    | _, _ => .error ⟨.type, []⟩

/-- Numbers of a type that holds the integers within bounds. -/
def number (toInt : α → Int) (ofInt : Int → α) (lo hi : Int) : Setting α where
  write a := .int (toInt a)
  read
    | _, .int n => if lo ≤ n && n ≤ hi then .ok (ofInt n) else .error ⟨.value, []⟩
    | _, _ => .error ⟨.type, []⟩

/-- Unsigned 64-bit numbers. -/
def uint64 : Setting UInt64 :=
  number (fun n => n.toNat) (fun n => UInt64.ofNat n.toNat) 0 maxUInt64

/-- Unsigned 32-bit numbers. -/
def uint32 : Setting UInt32 :=
  number (fun n => n.toNat) (fun n => UInt32.ofNat n.toNat) 0 maxUInt32

/-- Signed 64-bit numbers. -/
def int64 : Setting Int64 := number Int64.toInt Int64.ofInt minInt64 maxInt64

/-- One of several cases, given by its name, or by a table of its name and nothing. -/
def cases (name : α → String) (all : List α) : Setting α where
  write a := .text (name a)
  read
    | _, .text s => find? s
    | _, .table table =>
      match ConfigTree.byName table with
      | [] => .error ⟨.type, []⟩
      | (s, t) :: others =>
        Settings.within s do
          let a ← find? s
          match t, others with
          | .null, [] => return a
          | _, _ => throw ⟨.type, []⟩
    | _, _ => .error ⟨.type, []⟩
where
  /-- The case of a name. -/
  find? (s : String) : Except ConfigFault α :=
    (all.find? (name · == s)).elim (.error ⟨.variant, []⟩) .ok

end Setting

end FlagAlerts
