import FlagAlerts.Text.Decimal
import FlagAlerts.Text.Quoted

/-!
# Pages of a listing

A store lists things page by page. A page ends with a cursor, with which the next one is asked for;
a page with fewer things than asked for is the last. Stores in memory use the number of the things
listed so far as the cursor.
-/

namespace FlagAlerts

open FlagAlerts.Text

/-- Why a store gives no answer. -/
inductive StoreError where
  | notFound (what : String)
  | unavailable (why : String)
  | internal (why : String)
  deriving Repr, DecidableEq, Inhabited

namespace StoreError

/-- The text of an error. -/
def message : StoreError → String
  | .notFound what => "not found: " ++ what
  | .unavailable why => "store unavailable: " ++ why
  | .internal why => "store internal error: " ++ why

/-- The answer for a listing that is given up, as it has more pages than are allowed for. -/
def unending : StoreError := .internal "listing without an end"

/-- Whether what was asked for does not exist. -/
def isNotFound : StoreError → Bool
  | .notFound _ => true
  | _ => false

end StoreError

/-- What a page is asked for with; the first page has an empty cursor. -/
structure ListRequest where
  pageSize : Nat
  cursor : String := ""
  deriving Repr, DecidableEq, Inhabited

/-- A page of a listing. -/
structure Page (α : Type) where
  items : List α
  nextCursor : String
  deriving Repr, DecidableEq, Inhabited

namespace Page

variable {α : Type} {m : Type → Type}

/-- The number of things that a cursor passes over. -/
def offset? (cursor : String) : Except StoreError Nat :=
  if cursor.isEmpty then .ok 0
  else
    match readNat? maxUInt64 cursor.toList with
    | some n => .ok n
    | none => .error (.internal ("bad cursor " ++ quoted cursor))

/-- The page of a list that is asked for; pages have at least one thing. -/
def ofList (items : List α) (request : ListRequest) : Except StoreError (Page α) := do
  let offset ← offset? request.cursor
  let finish := min (offset + max request.pageSize 1) items.length
  return ⟨(items.take finish).drop offset, decimal finish⟩

/-- Asks for page after page, at most `limit` of them, up to one that is short. -/
def collectFrom [Monad m] (fetch : ListRequest → m (Except StoreError (Page α))) (pageSize : Nat) :
    (limit : Nat) → (cursor : String) → m (Except StoreError (List α))
  | 0, _ => pure (.error .unending)
  | limit + 1, cursor => do
    match ← fetch ⟨pageSize, cursor⟩ with
    | .error e => pure (.error e)
    | .ok page =>
      if page.items.length < pageSize then pure (.ok page.items)
      else do
        match ← collectFrom fetch pageSize limit page.nextCursor with
        | .error e => pure (.error e)
        | .ok rest => pure (.ok (page.items ++ rest))

/-- All things of a listing of at most `limit` pages; one with more of them is given up. -/
def collectAll [Monad m] (pageSize limit : Nat)
    (fetch : ListRequest → m (Except StoreError (Page α))) : m (Except StoreError (List α)) :=
  collectFrom fetch pageSize limit ""

end Page

end FlagAlerts
