import FlagAlerts.Delivery.Sender
import FlagAlerts.Proofs.Json.Lawful

/-!
# The tags in the state of a feature flag

The state of a feature flag is a JSON text. Its tags are the texts that the field `tags` lists, and it
has none without this field; all other fields are passed over. What is wrong with the text is met from
left to right: the first fault is the reason why the tags cannot be read.

A state may also be a list of the values of its fields, which are the tags alone.
-/

namespace FlagAlerts

namespace Doc

/-- The text that a document is. -/
def text? : Doc → Option String
  | .text s => s
  | _ => none

/-- Why a document is not a text. -/
def notText? (d : Doc) : Option Fault := if d.text?.isSome then none else some d.unexpected

/-- The texts in a list. -/
def texts : Doc → List String
  | .list items _ => items.filterMap text?
  | _ => []

/-- What is wrong with a document that should be a list of texts, from left to right. -/
def textsFaults : Doc → List Fault
  | .list items stop => items.filterMap notText? ++ stop.toList
  | d => [d.unexpected]

end Doc

namespace Sender

/-! ## What a state tells -/

/-- The value of an entry that is named for the tags. -/
def tagsEntry? : Key × Doc → Option Doc
  | (.text name, d) => if name = "tags" then some d else none
  | _ => none

/-- What is wrong with the entries of a state, from left to right. Tags that come once more are one
fault. -/
def entryFaults : (seen : Bool) → List (Key × Doc) → List Fault
  | _, [] => []
  | seen, (.text name, d) :: rest =>
    if name = "tags" then (if seen then [.mismatch] else d.textsFaults) ++ entryFaults true rest
    else d.faultPassed?.toList ++ entryFaults seen rest
  | seen, (.undecodable, _) :: rest => .malformed :: entryFaults seen rest
  | seen, (.absent b, _) :: rest => b.fault :: entryFaults seen rest

/-- What is wrong with a state, from left to right. -/
def stateFaults : Doc → List Fault
  | .record entries stop => entryFaults false entries ++ stop.toList
  | .list [] stop => stop.toList
  | .list [tags] stop => tags.textsFaults ++ stop.toList
  | .list (tags :: _ :: _) _ => tags.textsFaults ++ [.malformed]
  | d => [d.unexpected]

/-- The tags that a state lists. -/
def stateTags : Doc → List String
  | .record entries _ => (entries.findSome? tagsEntry?).elim [] Doc.texts
  | .list items _ => items.head?.elim [] Doc.texts
  | _ => []

/-- What can be read where this is wrong: the first fault, or what there is if nothing is. -/
def unlessFaulty {α : Type} (faults : List Fault) (a : α) : Except Fault α :=
  match faults with
  | [] => .ok a
  | fault :: _ => .error fault

/-- The tags in the text of a state. -/
def tagsOfState (state : String) : Except Fault (List String) :=
  let (d, trailing) := Doc.read (Text.symbols state)
  unlessFaulty (stateFaults d ++ trailing.toList) (stateTags d)

/-! ## Reading it -/

section Reading

variable {α β : Type}

/-- Faults on the left come first. -/
theorem unlessFaulty_append (fs gs : List Fault) (a : α) (b : β) :
    unlessFaulty (fs ++ gs) b = (unlessFaulty fs a).bind fun _ => unlessFaulty gs b := by
  cases fs <;> rfl

theorem unlessFaulty_map (f : α → β) (fs : List Fault) (a : α) :
    unlessFaulty fs (f a) = (unlessFaulty fs a).map f := by
  cases fs <;> rfl

theorem check_eq (fault : Option Fault) : Fault.check fault = unlessFaulty fault.toList () := by
  cases fault <;> rfl

theorem decode_text (place : Place) (d : Doc) :
    Codec.text.decode place d = unlessFaulty d.notText?.toList (d.text?.getD "") := by
  cases d with
  | text s => cases s <;> rfl
  | _ => rfl

theorem mapM_decode_text (place : Place) (items : List Doc) :
    items.mapM (Codec.text.decode place) =
      unlessFaulty (items.filterMap Doc.notText?) (items.filterMap Doc.text?) := by
  induction items with
  | nil => rfl
  | cons d rest ih =>
    rw [List.mapM_cons, decode_text, ih]
    cases told : d.text? with
    | none =>
      have wrong : d.notText? = some d.unexpected := by simp [Doc.notText?, told]
      rw [List.filterMap_cons_some wrong, wrong]
      rfl
    | some s =>
      have right : d.notText? = none := by simp [Doc.notText?, told]
      rw [List.filterMap_cons_none right, List.filterMap_cons_some told, right]
      cases rest.filterMap Doc.notText? <;> rfl

theorem decode_texts (levels : Nat) (d : Doc) :
    (Codec.list .text).decode (.text (levels + 1)) d = unlessFaulty d.textsFaults d.texts := by
  cases d with
  | list items stop =>
    simp only [Codec.list, Place.enter, bind, Except.bind, mapM_decode_text, check_eq]
    rw [Doc.textsFaults, unlessFaulty_append _ _ (items.filterMap Doc.text?)]
    cases items.filterMap Doc.notText? with
    | nil => cases stop <;> rfl
    | cons => rfl
  | _ => rfl

/-- The one field that matters in a state. -/
def tagsFields : Fields (Option (List String) × Unit) (List String × Unit) :=
  .optional "tags" (.list .text) [] .nil

/-- The tags are put into their slot, if they are a list of texts. -/
theorem put_tags (levels : Nat) (d : Doc) :
    tagsFields.put (.text (levels + 1)) "tags" d (none, ()) =
      unlessFaulty d.textsFaults (some d.texts, ()) := by
  have list := decode_texts levels d
  simp only [tagsFields, Fields.optional, Fields.put, beq_self_eq_true, if_true, list]
  cases d.textsFaults <;> rfl

/-- Any other field is passed over. -/
theorem put_other (levels : Nat) {name : String} (other : name ≠ "tags") (d : Doc)
    (slot : Option (List String)) :
    tagsFields.put (.text (levels + 1)) name d (slot, ()) =
      unlessFaulty d.faultPassed?.toList (slot, ()) := by
  have differs : ("tags" == name) = false := beq_eq_false_iff_ne.2 (Ne.symm other)
  simp only [tagsFields, Fields.optional, Fields.put, differs, Bool.false_eq_true, if_false, check_eq]
  cases d.faultPassed? <;> rfl

/-- Entries are read one after another, and the first list of tags is kept. -/
theorem putAll_tagsFields (levels : Nat) (entries : List (Key × Doc)) (slot : Option (List String)) :
    tagsFields.putAll (.text (levels + 1)) entries (slot, ()) =
      unlessFaulty (entryFaults slot.isSome entries)
        (slot.or ((entries.findSome? tagsEntry?).map Doc.texts), ()) := by
  induction entries generalizing slot with
  | nil => cases slot <;> rfl
  | cons entry rest ih =>
    obtain ⟨key, d⟩ := entry
    cases key with
    | absent b => rfl
    | undecodable => rfl
    | text name =>
      rw [Fields.putAll, entryFaults, List.findSome?_cons, tagsEntry?]
      by_cases named : name = "tags"
      · subst named
        cases slot with
        | some tags => rfl
        | none =>
          rw [put_tags]
          simp only [if_true, bind, Option.isSome_none, Bool.false_eq_true, if_false]
          rw [unlessFaulty_append _ _ (some d.texts, ())]
          cases d.textsFaults with
          | nil => exact ih (some d.texts)
          | cons => rfl
      · rw [put_other levels named, if_neg named, if_neg named]
        rw [unlessFaulty_append _ _ (slot, ())]
        cases d.faultPassed? with
        | none => exact ih slot
        | some => rfl

/-- Tags are read from a state just as it tells them. -/
theorem decode_tags (levels : Nat) (d : Doc) :
    tagsCodec.decode (.text (levels + 2)) d = unlessFaulty (stateFaults d) (stateTags d) := by
  have fields : tagsCodec.decode (.text (levels + 2)) d =
      (tagsFields.decode (.text (levels + 2)) d).map (·.1) := rfl
  rw [fields]
  cases d with
  | record entries stop =>
    have put := putAll_tagsFields levels entries none
    have empty : tagsFields.empty = (none, ()) := rfl
    simp only [Fields.decode, Place.enter, bind, Except.bind, empty, put, check_eq, stateFaults,
      stateTags, Option.isSome_none, Option.none_or]
    cases entryFaults false entries with
    | cons => rfl
    | nil =>
      cases stop with
      | some => rfl
      | none => cases entries.findSome? tagsEntry? <;> rfl
  | list items stop =>
    have list := decode_texts levels
    simp only [Fields.decode, Place.enter, bind, Except.bind]
    cases items with
    | nil => cases stop <;> rfl
    | cons tags others =>
      simp only [tagsFields, Fields.optional, Fields.ofItems, list, bind, Except.bind]
      cases others with
      | nil =>
        simp only [Fields.ofItems, check_eq, stateFaults, stateTags, List.head?_cons, Option.elim]
        rw [unlessFaulty_append _ _ tags.texts]
        cases tags.textsFaults with
        | nil => cases stop <;> rfl
        | cons => rfl
      | cons =>
        simp only [Fields.ofItems, stateFaults, stateTags, List.head?_cons, Option.elim]
        rw [unlessFaulty_append _ _ tags.texts]
        cases tags.textsFaults <;> rfl
  | _ => rfl

/-- The tags that are read from the text of a state are those that it tells. -/
theorem read_tags (state : String) : tagsCodec.read (Text.symbols state) = tagsOfState state := by
  simp only [Codec.read, tagsOfState]
  generalize Doc.read (Text.symbols state) = read
  obtain ⟨d, trailing⟩ := read
  simp only [Place.whole, decode_tags, check_eq]
  rw [unlessFaulty_append _ _ (stateTags d)]
  cases stateFaults d with
  | nil => cases trailing <;> rfl
  | cons => rfl

end Reading

end Sender

/-! ## States that are written as JSON values -/

namespace Json

mutual

/-- The text of a value can be passed over. -/
theorem faultPassed_doc (j : Json) : j.doc.faultPassed? = none := by
  cases j with
  | int n =>
    rw [doc]
    split <;> rfl
  | list items => rw [doc, Doc.faultPassed?, faultPassedItems_docItems items, Option.none_or]
  | record fields => rw [doc, Doc.faultPassed?, faultPassedEntries_docEntries fields, Option.none_or]
  | _ => rfl

theorem faultPassedItems_docItems (items : List Json) :
    Doc.faultPassedItems? (docItems items) = none := by
  cases items with
  | nil => rfl
  | cons item items =>
    rw [docItems, Doc.faultPassedItems?, faultPassed_doc item, faultPassedItems_docItems items,
      Option.none_or]

theorem faultPassedEntries_docEntries (fields : List (String × Json)) :
    Doc.faultPassedEntries? (docEntries fields) = none := by
  cases fields with
  | nil => rfl
  | cons field fields =>
    obtain ⟨name, value⟩ := field
    simp only [docEntries, Doc.faultPassedEntries?, faultPassed_doc value,
      faultPassedEntries_docEntries fields, Option.none_or]

end

/-- The text that a value is. -/
def text? : Json → Option String
  | .text s => some s
  | _ => none

/-- The texts in a value that is a list of texts. -/
def texts? : Json → Option (List String)
  | .list items => items.mapM text?
  | _ => none

end Json

namespace Sender

/-- The tags in a state with certain fields: those of the one field `tags`, and none without it. A
field `tags` that is no list of texts or that comes twice is refused. -/
def tagsOfFields (fields : List (String × Json)) : Except Fault (List String) :=
  match fields.filter (·.1 = "tags") with
  | [] => .ok []
  | [(_, tags)] => tags.texts?.elim (.error .mismatch) .ok
  | _ :: _ :: _ => .error .mismatch

/-- A value that is no text is of another shape. -/
theorem notText_doc (j : Json) : j.doc.notText? = if j.text?.isSome then none else some .mismatch := by
  cases j with
  | int n =>
    rw [Json.doc]
    split <;> rfl
  | _ => rfl

theorem text_doc (j : Json) : j.doc.text? = j.text? := by
  cases j with
  | int n =>
    rw [Json.doc]
    split <;> rfl
  | _ => rfl

/-- The value of a field is read as a list of texts if it is one. -/
theorem texts_doc (j : Json) :
    unlessFaulty j.doc.textsFaults j.doc.texts = j.texts?.elim (.error .mismatch) .ok := by
  cases j with
  | list items =>
    rw [Json.doc, Doc.textsFaults, Doc.texts, Json.texts?, Json.docItems_eq_map, Option.toList,
      List.append_nil]
    induction items with
    | nil => rfl
    | cons item items ih =>
      cases told : item.text? with
      | none => simp [notText_doc, told, unlessFaulty]
      | some s =>
        simp only [List.map_cons, List.filterMap_cons, List.mapM_cons, notText_doc, text_doc, told,
          Option.isSome_some, if_true]
        rw [unlessFaulty_map (s :: ·), ih]
        cases items.mapM Json.text? <;> rfl
  | int n =>
    rw [Json.doc]
    split <;> rfl
  | _ => rfl

/-- Once the tags are told, each field that tells them again is refused. -/
theorem entryFaults_docEntries (fields : List (String × Json)) :
    entryFaults true (Json.docEntries fields) =
      List.replicate (fields.filter (·.1 = "tags")).length .mismatch := by
  induction fields with
  | nil => rfl
  | cons field fields ih =>
    obtain ⟨name, value⟩ := field
    by_cases named : name = "tags"
    · simp [Json.docEntries, entryFaults, named, ih, List.replicate_succ]
    · simp [Json.docEntries, entryFaults, named, ih, Json.faultPassed_doc]

/-- The fields of a state tell its tags. -/
theorem tags_docEntries (fields : List (String × Json)) :
    unlessFaulty (entryFaults false (Json.docEntries fields))
        (((Json.docEntries fields).findSome? tagsEntry?).elim [] Doc.texts) =
      tagsOfFields fields := by
  induction fields with
  | nil => rfl
  | cons field fields ih =>
    obtain ⟨name, value⟩ := field
    rw [Json.docEntries, entryFaults, List.findSome?_cons, tagsEntry?, tagsOfFields]
    by_cases named : name = "tags"
    · have kept : ((name, value) :: fields).filter (·.1 = "tags") =
          (name, value) :: fields.filter (·.1 = "tags") :=
        List.filter_cons_of_pos (by simpa using named)
      rw [if_pos named, if_pos named, if_neg Bool.false_ne_true, entryFaults_docEntries, kept]
      cases fields.filter (·.1 = "tags") with
      | nil =>
        rw [List.length_nil, List.replicate_zero, List.append_nil]
        exact texts_doc value
      | cons =>
        rw [unlessFaulty_append _ _ value.doc.texts, texts_doc]
        cases value.texts? <;> rfl
    · rw [if_neg named, if_neg named, List.filter_cons_of_neg (by simpa using named),
        Json.faultPassed_doc]
      exact ih

/-- A state that is written as a record of values has the tags that its fields tell. -/
theorem tagsOfState_compact {fields : List (String × Json)} (inRange : (Json.record fields).InRange) :
    tagsOfState (Json.record fields).compact = tagsOfFields fields := by
  rw [tagsOfState, Doc.read_compact _ inRange, ← tags_docEntries]
  simp only [Json.doc, stateFaults, stateTags, Option.toList, List.append_nil]

end Sender

end FlagAlerts
