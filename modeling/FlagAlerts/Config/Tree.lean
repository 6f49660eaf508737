import FlagAlerts.Json.Document

/-!
# Settings before they are checked

Every source of settings yields a tree. Trees are laid over each other: tables are joined entry by
entry, and anything else is replaced. Reading a tree tells where a setting is of the wrong kind.
-/

namespace FlagAlerts

/-- A setting, or a table of settings by name. -/
inductive ConfigTree where
  | null
  | bool (b : Bool)
  | int (n : Int)
  | fraction
  | text (s : String)
  /-- A text of one character that was written as such. -/
  | char (c : Char)
  | list (items : List ConfigTree)
  | table (entries : List (String × ConfigTree))
  deriving Repr, Inhabited

/-- What is wrong with a setting. -/
inductive ConfigFaultKind where
  /-- It is of another type. -/
  | type
  /-- It is out of range. -/
  | value
  /-- It is none of the names that are known. -/
  | variant
  /-- Its text or its source cannot be read. -/
  | text
  /-- It is a list with too few or too many items. -/
  | length
  | missing
  deriving Repr, DecidableEq, Inhabited

/-- A setting that cannot be used, and where it is. -/
structure ConfigFault where
  kind : ConfigFaultKind
  path : List String := []
  deriving Repr, DecidableEq, Inhabited

namespace ConfigTree

variable {α : Type}

mutual

/-- A JSON value as settings. -/
def ofJson : Json → ConfigTree
  | .null => .null
  | .bool b => .bool b
  | .int n => .int n
  | .text s => .text s
  | .list items => .list (ofItems items)
  | .record fields => .table (ofFields fields)

/-- The items of a list as settings. -/
def ofItems : List Json → List ConfigTree
  | [] => []
  | item :: items => ofJson item :: ofItems items

/-- The fields of a record as settings. -/
def ofFields : List (String × Json) → List (String × ConfigTree)
  | [] => []
  | (name, value) :: fields => (name, ofJson value) :: ofFields fields

end

mutual

/-- A document as settings. -/
def ofDoc : Doc → ConfigTree
  | .null => .null
  | .bool b => .bool b
  | .int n => .int n
  | .fraction _ => .fraction
  | .text s => .text (s.getD "")
  | .list items _ => .list (ofDocs items)
  | .record entries _ => .table (ofEntries entries)
  | .broken .. => .null

/-- The items of a list as settings. -/
def ofDocs : List Doc → List ConfigTree
  | [] => []
  | d :: ds => ofDoc d :: ofDocs ds

/-- The entries of a record as settings. -/
def ofEntries : List (Key × Doc) → List (String × ConfigTree)
  | [] => []
  | (.text name, d) :: rest => (name, ofDoc d) :: ofEntries rest
  | _ :: rest => ofEntries rest

end

/-! ## Laying trees over each other -/

/-- The entries of a table without those of a name. -/
def without (name : String) (entries : List (String × ConfigTree)) : List (String × ConfigTree) :=
  entries.filter (·.1 != name)

mutual

/-- A tree laid over another one. -/
def join (base : ConfigTree) : ConfigTree → ConfigTree
  | .table entries =>
    match base with
    | .table below => .table (joinEntries below entries)
    | _ => .table (joinEntries [] entries)
  | top => top

/-- The entries of a table laid over those of another one. -/
def joinEntries (below : List (String × ConfigTree)) :
    List (String × ConfigTree) → List (String × ConfigTree)
  | [] => below
  | (name, top) :: rest =>
    joinEntries
      (match below.lookup name with
        | some base => below.map fun e => if e.1 == name then (name, join base top) else e
        | none => below ++ [(name, top)]) rest

end

/-- The entries of a table in the order of their names. -/
def byName (entries : List (String × ConfigTree)) : List (String × ConfigTree) :=
  entries.mergeSort fun a b => a.1 ≤ b.1

/-- The table that trees with a name each make up, each laid over those before it. -/
def ofLayers (layers : List ConfigTree) : ConfigTree := layers.foldl join (.table [])

end ConfigTree

end FlagAlerts
