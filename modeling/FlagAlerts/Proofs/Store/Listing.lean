import FlagAlerts.Effect
import FlagAlerts.Store.Page
import FlagAlerts.Proofs.Text.Decimal
import FlagAlerts.Proofs.Timed

/-!
# Walking through all pages of a listing

The pages of a list, asked for one after another, are together the list, whatever its length. The
cursor of a page is read back as the number of things listed so far, and the page after the last
full one, which may be empty, ends the walk.
-/

namespace FlagAlerts.Page

open FlagAlerts.Text

variable {α : Type} {items : List α} {cursor : String} {offset size limit : Nat}

theorem offset?_empty : offset? "" = .ok 0 := rfl

theorem offset?_decimal {n : Nat} (h : n ≤ maxUInt64) : offset? (decimal n) = .ok n := by
  rw [offset?, isEmpty_decimal, if_neg Bool.false_ne_true, toList_decimal, readNat?_digits h]

/-- The page at an offset has the next things of the list. -/
theorem ofList_at (read : offset? cursor = .ok offset) (positive : 0 < size) :
    ofList items ⟨size, cursor⟩ =
      .ok ⟨(items.drop offset).take size, decimal (min (offset + size) items.length)⟩ := by
  have width : max size 1 = size := by omega
  have part : (items.take (min (offset + size) items.length)).drop offset =
      (items.drop offset).take size := by
    rw [List.drop_take]
    rcases Nat.le_total (offset + size) items.length with full | short
    · rw [Nat.min_eq_left full, Nat.add_sub_cancel_left]
    · rw [Nat.min_eq_right short]
      have rest : (items.drop offset).length = items.length - offset := List.length_drop
      rw [List.take_of_length_le (by omega), List.take_of_length_le (by omega)]
  rw [ofList, read, width, ← part]
  rfl

/-! ## The pages of any store -/

/-- The answers of a store from a cursor on: so many pages, all of them full but the last, and what
they hold together, or the error of the one that is refused. Stores may write cursors as they like
and may fill pages beyond what was asked for. -/
inductive Walk (answer : ListRequest → Except StoreError (Page α)) (size : Nat) :
    String → Nat → Except StoreError (List α) → Prop where
  | last {cursor : String} {page : Page α} (answered : answer ⟨size, cursor⟩ = .ok page)
      (short : page.items.length < size) : Walk answer size cursor 1 (.ok page.items)
  | refused {cursor : String} {e : StoreError} (answered : answer ⟨size, cursor⟩ = .error e) :
      Walk answer size cursor 1 (.error e)
  | more {cursor : String} {page : Page α} {pages : Nat} {found : Except StoreError (List α)}
      (answered : answer ⟨size, cursor⟩ = .ok page) (full : size ≤ page.items.length)
      (rest : Walk answer size page.nextCursor pages found) :
      Walk answer size cursor (pages + 1) (found.map (page.items ++ ·))

section Walks

variable {fetch : ListRequest → Work (Except StoreError (Page α))} {pages : Nat}
  {answer : ListRequest → Except StoreError (Page α)} {found : Except StoreError (List α)}

/-- Asking for page after page finds what the pages hold, and asks for each of them once. -/
theorem Walk.collectFrom {asked : List Effect} (walk : Walk answer size cursor pages found)
    (answers : ∀ request, (fetch request).result = answer request)
    (asks : ∀ request, (fetch request).acts = asked) (enough : pages ≤ limit) :
    (Page.collectFrom fetch size limit cursor).result = found ∧
      (Page.collectFrom fetch size limit cursor).acts = (List.replicate pages asked).flatten := by
  induction walk generalizing limit with
  | last answered short =>
    obtain ⟨limit, rfl⟩ := Nat.exists_eq_add_of_le' enough
    have page := (answers _).trans answered
    constructor <;> simp [Page.collectFrom, page, short, asks]
  | refused answered =>
    obtain ⟨limit, rfl⟩ := Nat.exists_eq_add_of_le' enough
    have page := (answers _).trans answered
    constructor <;> simp [Page.collectFrom, page, asks]
  | @more cursor first pages found answered full rest ih =>
    obtain ⟨limit, rfl⟩ := Nat.exists_eq_add_of_le' (Nat.le_trans (Nat.le_add_left 1 pages) enough)
    obtain ⟨result, acts⟩ := ih (Nat.le_of_succ_le_succ enough)
    have page := (answers _).trans answered
    have long : ¬ first.items.length < size := Nat.not_lt.2 full
    simp only [Page.collectFrom, Timed.result_bind, Timed.acts_bind, page, long, if_false, result,
      acts, asks, List.replicate_succ, List.flatten_cons]
    cases found <;> simp [Except.map]

/-- From an offset on, the pages of a list hold the rest of it; one page is asked for more than
there are full ones. -/
theorem walk_list (positive : 0 < size) (countable : items.length ≤ maxUInt64)
    (read : offset? cursor = .ok offset) (inside : offset ≤ items.length) :
    Walk (ofList items) size cursor ((items.length - offset) / size + 1)
      (.ok (items.drop offset)) := by
  -- on what is left of the list, which every full page makes shorter
  induction left : items.length - offset using Nat.strongRecOn generalizing cursor offset with
  | ind left ih =>
    subst left
    have rest : (items.drop offset).length = items.length - offset := List.length_drop
    have page : ofList items ⟨size, cursor⟩ = _ := ofList_at read positive
    by_cases short : items.length - offset < size
    · have whole : (items.drop offset).take size = items.drop offset :=
        List.take_of_length_le (by omega)
      rw [whole] at page
      rw [Nat.div_eq_of_lt short]
      apply Walk.last page
      show (items.drop offset).length < size
      omega
    · have full : ((items.drop offset).take size).length = size := by
        rw [List.length_take, rest]
        omega
      have next : min (offset + size) items.length = offset + size := by omega
      have pages : (items.length - offset) / size = (items.length - (offset + size)) / size + 1 := by
        rw [← Nat.sub_sub, ← Nat.div_eq_sub_div positive (by omega)]
      have onward := ih (items.length - (offset + size)) (by omega)
        (offset?_decimal (n := offset + size) (by omega)) (by omega) rfl
      rw [next] at page
      have both : items.drop offset =
          (items.drop offset).take size ++ items.drop (offset + size) := by
        rw [← List.drop_drop, List.take_append_drop]
      rw [pages, both]
      apply Walk.more page _ onward
      exact Nat.le_of_eq full.symm

/-- The pages of a list, from the first one on. -/
theorem walk_ofList (positive : 0 < size) (countable : items.length ≤ maxUInt64) :
    Walk (ofList items) size "" (items.length / size + 1) (.ok items) :=
  walk_list positive countable offset?_empty (Nat.zero_le _)

end Walks

variable {fetch : ListRequest → Work (Except StoreError (Page α))} {asked : Effect}

/-- A walk through all pages gives the whole list. -/
theorem collectAll_list (answers : ∀ request, (fetch request).result = ofList items request)
    (asks : ∀ request, (fetch request).acts = [asked]) (positive : 0 < size)
    (countable : items.length ≤ maxUInt64) (enough : items.length < limit) :
    (collectAll size limit fetch).result = .ok items ∧
      (collectAll size limit fetch).acts = List.replicate (items.length / size + 1) asked := by
  have few : items.length / size + 1 ≤ limit :=
    Nat.lt_of_le_of_lt (Nat.div_le_self _ _) enough
  have walked := (walk_ofList positive countable).collectFrom answers asks few
  rwa [List.flatten_replicate_singleton] at walked

/-- What a walk finds depends on nothing but the answers. -/
theorem result_collectFrom_congr {fetch' : ListRequest → Work (Except StoreError (Page α))}
    (same : ∀ request, (fetch request).result = (fetch' request).result) (size limit : Nat)
    (cursor : String) :
    (collectFrom fetch size limit cursor).result =
      (collectFrom fetch' size limit cursor).result := by
  induction limit generalizing cursor with
  | zero => rfl
  | succ limit ih =>
    simp only [collectFrom, Timed.result_bind, same]
    split
    next => rfl
    next page _ =>
      split
      next => rfl
      next => rw [Timed.result_bind, Timed.result_bind, ih]

/-- A walk does nothing but what asking for pages does, whatever it finds. -/
theorem acts_collectFrom {P : Effect → Prop} (asks : ∀ request, ∀ e ∈ (fetch request).acts, P e)
    (size limit : Nat) (cursor : String) :
    ∀ e ∈ (collectFrom fetch size limit cursor).acts, P e := by
  induction limit generalizing cursor with
  | zero => simp [collectFrom]
  | succ limit ih =>
    intro e he
    rw [collectFrom, Timed.acts_bind] at he
    rcases List.mem_append.1 he with first | later
    · exact asks _ e first
    · split at later
      · simp at later
      · split at later
        · simp at later
        next page _ _ =>
          rw [Timed.acts_bind] at later
          apply ih page.nextCursor e
          rcases List.mem_append.1 later with found | last
          · exact found
          · split at last <;> simp at last

/-- A walk ends with the first page that is refused. -/
theorem collectAll_error {e : StoreError} (answers : ∀ request, (fetch request).result = .error e)
    (asks : ∀ request, (fetch request).acts = [asked]) (some_page : 0 < limit) :
    (collectAll size limit fetch).result = .error e ∧
      (collectAll size limit fetch).acts = [asked] := by
  obtain ⟨limit, rfl⟩ := Nat.exists_eq_succ_of_ne_zero (Nat.ne_of_gt some_page)
  constructor <;> simp [collectAll, collectFrom, answers, asks]

end FlagAlerts.Page
