import FlagAlerts.Json.Codec
import FlagAlerts.Proofs.Json.Reading

/-!
# Codecs that read what they write

A codec is lawful if it reads every value back from the document of what it writes for it. The ways
to build codecs keep this: lists, values that may be missing, named cases, records whose fields have
different names, and tagged records. A lawful codec reads every value back from its compact text.
-/

namespace FlagAlerts

open FlagAlerts.Text

/-! ## Values of a limited depth -/

namespace Json

theorem docItems_eq_map (items : List Json) : docItems items = items.map doc := by
  induction items with
  | nil => rfl
  | cons item items ih => rw [docItems, ih, List.map_cons]

theorem inRangeItems_iff (items : List Json) : InRangeItems items ↔ ∀ j ∈ items, j.InRange := by
  induction items with
  | nil => simp [InRangeItems]
  | cons item items ih => simp [InRangeItems, ih]

theorem doc_ne_null {j : Json} (h : j ≠ .null) : j.doc ≠ .null := by
  cases j with
  | null => exact absurd rfl h
  | int n =>
    rw [doc]
    split <;> simp
  | bool | text | list | record => simp [doc]

end Json

namespace Place

/-- Whether lists and records may contain each other to a depth at a place. -/
def Admits : Place → (depth : Nat) → Prop
  | .text levels, depth => depth ≤ levels
  | .kept, _ => True

variable {place : Place} {depth : Nat}

theorem enter_of_admits (h : place.Admits (depth + 1)) :
    ∃ inner, place.enter = .ok inner ∧ inner.Admits depth := by
  cases place with
  | kept => exact ⟨.kept, rfl, trivial⟩
  | text levels =>
    cases levels with
    | zero => exact absurd h (Nat.not_succ_le_zero _)
    | succ levels => exact ⟨.text levels, rfl, Nat.le_of_succ_le_succ h⟩

end Place

/-- A document that may be kept aside wherever it is admitted. -/
def Doc.IsFaultless (d : Doc) (depth : Nat) : Prop :=
  ∀ levels, depth ≤ levels → d.faultKept? levels = none

/-- A codec that reads what it writes, where lists and records may contain each other to a depth. -/
structure Codec.Lawful {α : Type} (c : Codec α) (depth : Nat) : Prop where
  decode_doc : ∀ (place : Place), place.Admits depth → ∀ a, c.decode place (c.encode a).doc = .ok a
  isFaultless : ∀ a, (c.encode a).doc.IsFaultless depth
  inRange : ∀ a, (c.encode a).InRange

namespace Codec

variable {α β : Type} {c : Codec α} {depth : Nat}

/-! ## Plain values -/

theorem text_lawful (depth : Nat) : text.Lawful depth where
  decode_doc _ _ _ := rfl
  isFaultless _ _ _ := rfl
  inRange _ := trivial

theorem bool_lawful (depth : Nat) : bool.Lawful depth where
  decode_doc _ _ _ := rfl
  isFaultless _ _ _ := rfl
  inRange _ := trivial

theorem number_lawful {toInt : α → Int} {ofInt? : Int → Option α}
    (inverse : ∀ a, ofInt? (toInt a) = some a)
    (inRange : ∀ a, minInt64 ≤ toInt a ∧ toInt a ≤ maxUInt64) (depth : Nat) :
    (number toInt ofInt?).Lawful depth := by
  have doc (a : α) : ((number toInt ofInt?).encode a).doc = .int (toInt a) := by
    have fits : (minInt64 ≤ toInt a && toInt a ≤ maxUInt64) = true := by simpa using inRange a
    rw [number, Json.doc, if_pos fits]
  refine ⟨fun place _ a => ?_, fun a levels _ => ?_, inRange⟩
  · rw [doc]
    simp [number, inverse]
  · rw [doc]
    rfl

theorem inRange?_eq_some {lo hi n : Int} (least : lo ≤ n) (most : n ≤ hi) :
    inRange? lo hi n = some n := by
  simp [inRange?, least, most]

theorem int64_lawful (depth : Nat) : int64.Lawful depth := by
  have bounds (n : Int64) : minInt64 ≤ n.toInt ∧ n.toInt ≤ maxInt64 :=
    ⟨n.le_toInt, Int.le_of_lt_add_one n.toInt_lt⟩
  refine number_lawful (fun n => ?_) (fun n => ?_) depth
  · rw [inRange?_eq_some (bounds n).1 (bounds n).2, Option.map_some, Int64.ofInt_toInt]
  · have most : maxInt64 ≤ maxUInt64 := by decide
    exact ⟨(bounds n).1, Int.le_trans (bounds n).2 most⟩

theorem int32_lawful (depth : Nat) : int32.Lawful depth := by
  have bounds (n : Int32) : minInt32 ≤ n.toInt ∧ n.toInt ≤ maxInt32 :=
    ⟨n.le_toInt, Int.le_of_lt_add_one n.toInt_lt⟩
  refine number_lawful (fun n => ?_) (fun n => ?_) depth
  · rw [inRange?_eq_some (bounds n).1 (bounds n).2, Option.map_some, Int32.ofInt_toInt]
  · have least : minInt64 ≤ minInt32 := by decide
    have most : maxInt32 ≤ maxUInt64 := by decide
    exact ⟨Int.le_trans least (bounds n).1, Int.le_trans (bounds n).2 most⟩

theorem uint32_lawful (depth : Nat) : uint32.Lawful depth := by
  have bounds (n : UInt32) : 0 ≤ (n.toNat : Int) ∧ (n.toNat : Int) ≤ maxUInt32 := by
    have less := n.toNat_lt
    rw [maxUInt32]
    omega
  refine number_lawful (fun n => ?_) (fun n => ?_) depth
  · rw [inRange?_eq_some (bounds n).1 (bounds n).2, Option.map_some, Int.toNat_natCast,
      UInt32.ofNat_toNat]
  · have least : minInt64 ≤ 0 := by decide
    have most : (maxUInt32 : Int) ≤ maxUInt64 := by decide
    exact ⟨Int.le_trans least (bounds n).1, Int.le_trans (bounds n).2 most⟩

/-- A value that may be missing is told from a missing one, if it is not written as null. -/
theorem Lawful.option (lawful : c.Lawful depth) (notNull : ∀ a, c.encode a ≠ .null) :
    (Codec.option c).Lawful depth := by
  have present (place : Place) (d : Doc) (notNull : d ≠ .null) :
      (Codec.option c).decode place d = (c.decode place d).map some := by
    cases d with
    | null => exact absurd rfl notNull
    | bool | int | fraction | text | list | record | broken => rfl
  refine ⟨fun place admits a => ?_, fun a => ?_, fun a => ?_⟩
  · cases a with
    | none => rfl
    | some a =>
      exact (present place _ (Json.doc_ne_null (notNull a))).trans
        (congrArg (·.map some) (lawful.decode_doc place admits a))
  · cases a with
    | none => exact fun _ _ => rfl
    | some a => exact lawful.isFaultless a
  · cases a with
    | none => trivial
    | some a => exact lawful.inRange a

theorem faultKeptItems_eq_none {levels : Nat} (docs : List Doc)
    (each : ∀ d ∈ docs, d.faultKept? levels = none) : Doc.faultKeptItems? levels docs = none := by
  induction docs with
  | nil => rfl
  | cons d docs ih =>
    obtain ⟨first, others⟩ := List.forall_mem_cons.1 each
    rw [Doc.faultKeptItems?, first, Option.none_or, ih others]

theorem mapM_decode (place : Place) (items : List α)
    (each : ∀ a, c.decode place (c.encode a).doc = .ok a) :
    (Json.docItems (items.map c.encode)).mapM (c.decode place) = .ok items := by
  induction items with
  | nil => rfl
  | cons a items ih =>
    rw [List.map_cons, Json.docItems, List.mapM_cons, each, ih]
    rfl

theorem Lawful.list (lawful : c.Lawful depth) : (Codec.list c).Lawful (depth + 1) := by
  refine ⟨fun place admits items => ?_, fun items levels deep => ?_, fun items => ?_⟩
  · obtain ⟨inner, enter, admits⟩ := Place.enter_of_admits admits
    have read := mapM_decode inner items (lawful.decode_doc inner admits)
    simp [Codec.list, Json.doc, enter, read, bind, Except.bind, Fault.check, pure, Except.pure]
  · obtain ⟨levels, rfl⟩ : ∃ n, levels = n + 1 := ⟨levels - 1, by omega⟩
    have each : ∀ d ∈ Json.docItems (items.map c.encode), d.faultKept? levels = none := by
      rw [Json.docItems_eq_map, List.map_map]
      intro d hd
      obtain ⟨a, -, rfl⟩ := List.mem_map.1 hd
      exact lawful.isFaultless a levels (Nat.le_of_succ_le_succ deep)
    simp [Codec.list, Json.doc, Doc.faultKept?, faultKeptItems_eq_none _ each]
  · rw [Codec.list, Json.InRange, Json.inRangeItems_iff]
    intro j hj
    obtain ⟨a, -, rfl⟩ := List.mem_map.1 hj
    exact lawful.inRange a

/-- A type with named cases is lawful if every case is found by its name, or is the one for all
other names. -/
theorem cases_lawful {name : α → String} {all : List α} {other : Option α}
    (found : ∀ a, (all.find? (name · == name a)).or other = some a) (depth : Nat) :
    (cases name all other).Lawful depth := by
  refine ⟨fun place _ a => ?_, fun _ _ _ => rfl, fun _ => trivial⟩
  simp [cases, Json.doc, caseName, found, bind, Except.bind, pure, Except.pure]

end Codec

/-! ## Records -/

namespace Fields

variable {α σ γ : Type} {depth : Nat} {place : Place}

/-- The names of the fields. -/
def names : {σ γ : Type} → Fields σ γ → List String
  | _, _, .nil => []
  | _, _, .cons name _ _ rest => name :: rest.names

/-- Whether each field has a lawful codec. -/
def EachLawful (depth : Nat) : {σ γ : Type} → Fields σ γ → Prop
  | _, _, .nil => True
  | _, _, .cons _ codec _ rest => codec.Lawful depth ∧ rest.EachLawful depth

/-- Fields of different names, each with a lawful codec. -/
structure Lawful (depth : Nat) (fs : Fields σ γ) : Prop where
  distinct : fs.names.Nodup
  each : fs.EachLawful depth

theorem Lawful.of_cons {name : String} {codec : Codec α} {default : Option α} {rest : Fields σ γ}
    (lawful : (Fields.cons name codec default rest).Lawful depth) :
    codec.Lawful depth ∧ name ∉ rest.names ∧ rest.Lawful depth := by
  obtain ⟨new, distinct⟩ := List.nodup_cons.1 lawful.distinct
  exact ⟨lawful.each.1, new, distinct, lawful.each.2⟩

/-- All fields have been read. -/
def filled : {σ γ : Type} → Fields σ γ → γ → σ
  | _, _, .nil, () => ()
  | _, _, .cons _ _ _ rest, (a, values) => (some a, rest.filled values)

theorem finish_filled (fs : Fields σ γ) (values : γ) : fs.finish (fs.filled values) = .ok values := by
  induction fs with
  | nil => rfl
  | cons name codec default rest ih => simp [finish, filled, ih, bind, Except.bind, pure, Except.pure]

theorem map_fst_entries (fs : Fields σ γ) (values : γ) :
    (fs.entries values).map (·.1) = fs.names := by
  induction fs with
  | nil => rfl
  | cons name codec default rest ih => simp [entries, names, ih]

/-- Entries of other names leave the first field as it is. -/
theorem putAll_of_others {name : String} {codec : Codec α} {default : Option α} {rest : Fields σ γ}
    {fields : List (String × Json)} {slots full : σ} (slot : Option α)
    (others : name ∉ fields.map (·.1))
    (read : rest.putAll place (Json.docEntries fields) slots = .ok full) :
    (Fields.cons name codec default rest).putAll place (Json.docEntries fields) (slot, slots) =
      .ok (slot, full) := by
  induction fields generalizing slots with
  | nil =>
    cases read
    rfl
  | cons field fields ih =>
    obtain ⟨other, value⟩ := field
    rw [List.map_cons, List.mem_cons, not_or] at others
    have different : (name == other) = false := beq_eq_false_iff_ne.2 others.1
    simp only [Json.docEntries, putAll, put, different, Bool.false_eq_true, if_false, bind,
      Except.bind] at read ⊢
    cases one : rest.put place other value.doc slots with
    | error fault =>
      rw [one] at read
      cases read
    | ok slots =>
      rw [one] at read
      exact ih others.2 read

/-- The entries that are written fill all fields. -/
theorem Lawful.putAll {fs : Fields σ γ} (lawful : fs.Lawful depth) (admits : place.Admits depth)
    (values : γ) :
    fs.putAll place (Json.docEntries (fs.entries values)) fs.empty = .ok (fs.filled values) := by
  induction fs with
  | nil => rfl
  | cons name codec default rest ih =>
    obtain ⟨own, new, others⟩ := lawful.of_cons
    obtain ⟨a, values⟩ := values
    have first : (Fields.cons name codec default rest).put place name (codec.encode a).doc
        (none, rest.empty) = .ok (some a, rest.empty) := by
      simp [put, own.decode_doc place admits, bind, Except.bind, pure, Except.pure]
    simp only [entries, Json.docEntries, Fields.putAll, empty, first, bind, Except.bind, filled]
    exact putAll_of_others (some a) (by rwa [map_fst_entries]) (ih others values)

/-- The fields are read back from the record that is written. -/
theorem Lawful.decode {fs : Fields σ γ} (lawful : fs.Lawful depth)
    (admits : place.Admits (depth + 1)) (values : γ) :
    fs.decode place (.record (Json.docEntries (fs.entries values)) none) = .ok values := by
  obtain ⟨inner, enter, admits⟩ := Place.enter_of_admits admits
  simp [Fields.decode, enter, lawful.putAll admits, Fault.check, finish_filled, bind, Except.bind]

theorem Lawful.isFaultless {fs : Fields σ γ} (lawful : fs.Lawful depth) (values : γ) :
    ∀ field ∈ fs.entries values, field.2.doc.IsFaultless depth := by
  induction fs with
  | nil => simp [entries]
  | cons name codec default rest ih =>
    obtain ⟨own, -, others⟩ := lawful.of_cons
    exact List.forall_mem_cons.2 ⟨own.isFaultless _, ih others _⟩

theorem Lawful.inRange {fs : Fields σ γ} (lawful : fs.Lawful depth) (values : γ) :
    Json.InRangeFields (fs.entries values) := by
  induction fs with
  | nil => trivial
  | cons name codec default rest ih =>
    obtain ⟨own, -, others⟩ := lawful.of_cons
    exact ⟨own.inRange _, ih others _⟩

end Fields

namespace Codec

variable {α β σ γ : Type} {depth : Nat}

/-- Fields whose documents may be kept aside make a record that may be. -/
theorem isFaultless_record {fields : List (String × Json)}
    (each : ∀ field ∈ fields, field.2.doc.IsFaultless depth) :
    (Json.record fields).doc.IsFaultless (depth + 1) := by
  intro levels deep
  obtain ⟨levels, rfl⟩ : ∃ n, levels = n + 1 := ⟨levels - 1, by omega⟩
  have entries : Doc.faultKeptEntries? levels (Json.docEntries fields) = none := by
    induction fields with
    | nil => rfl
    | cons field fields ih =>
      obtain ⟨first, others⟩ := List.forall_mem_cons.1 each
      rw [Json.docEntries, Doc.faultKeptEntries?, first levels (Nat.le_of_succ_le_succ deep),
        Option.none_or, ih others]
  simp [Json.doc, Doc.faultKept?, entries]

theorem record_lawful {fs : Fields σ γ} {make : γ → α} {parts : α → γ} (lawful : fs.Lawful depth)
    (inverse : ∀ a, make (parts a) = a) : (record fs make parts).Lawful (depth + 1) where
  decode_doc place admits a := by
    have read := congrArg (·.map make) (lawful.decode admits (parts a))
    rwa [Except.map, inverse] at read
  isFaultless a := isFaultless_record (lawful.isFaultless (parts a))
  inRange a := lawful.inRange (parts a)

/-- A document that may be kept aside has no fault at a place that admits it. -/
theorem faultKept_of_admits {place : Place} {d : Doc} (isFaultless : d.IsFaultless depth)
    (admits : place.Admits depth) : place.faultKept? d = none := by
  cases place with
  | kept => rfl
  | text levels => exact isFaultless levels admits

/-- Entries of other names than the tag are kept aside as they are. -/
theorem splitTag_of_others {tag : String} {place : Place} {fields : List (String × Json)}
    (readTag : Doc → Except Fault β) (found : Option β) (untagged : tag ∉ fields.map (·.1))
    (isFaultless : ∀ field ∈ fields, field.2.doc.IsFaultless depth) (admits : place.Admits depth) :
    splitTag tag readTag place found (Json.docEntries fields) =
      .ok (found, Json.docEntries fields) := by
  induction fields with
  | nil => rfl
  | cons field fields ih =>
    obtain ⟨name, value⟩ := field
    rw [List.map_cons, List.mem_cons, not_or] at untagged
    obtain ⟨first, others⟩ := List.forall_mem_cons.1 isFaultless
    have different : (name == tag) = false := beq_eq_false_iff_ne.2 (Ne.symm untagged.1)
    simp [Json.docEntries, splitTag, different, faultKept_of_admits first admits,
      ih untagged.2 others, Fault.check, bind, Except.bind, pure, Except.pure]

/-- The fields that a value is written with, and how they are read once the tag is known, from
where they were kept aside. -/
inductive Described (tag : String) (depth : Nat) :
    List (String × Json) → Option (Doc → Except Fault α) → α → Prop where
  | fields {σ γ : Type} (fs : Fields σ γ) (values : γ) (make : γ → α) (lawful : fs.Lawful depth)
    (untagged : tag ∉ fs.names) :
    Described tag depth (fs.entries values) (some fun d => (fs.decode .kept d).map make)
      (make values)

section Described

variable {tag : String} {fields : List (String × Json)} {content : Option (Doc → Except Fault α)}
  {a : α}

theorem Described.read (h : Described tag depth fields content a) :
    ∃ read, content = some read ∧ read (.record (Json.docEntries fields) none) = .ok a := by
  cases h with
  | fields fs values make lawful untagged =>
    have admits : Place.kept.Admits (depth + 1) := trivial
    exact ⟨_, rfl, congrArg (·.map make) (lawful.decode admits values)⟩

theorem Described.untagged (h : Described tag depth fields content a) :
    tag ∉ fields.map (·.1) := by
  cases h with
  | fields fs values make lawful untagged => rwa [Fields.map_fst_entries]

theorem Described.isFaultless (h : Described tag depth fields content a) :
    ∀ field ∈ fields, field.2.doc.IsFaultless depth := by
  cases h with
  | fields fs values make lawful untagged => exact lawful.isFaultless values

theorem Described.inRange (h : Described tag depth fields content a) :
    Json.InRangeFields fields := by
  cases h with
  | fields fs values make lawful untagged => exact lawful.inRange values

end Described

/-- A tagged record is lawful if it is written with the fields that its tag stands for. -/
theorem tagged_lawful {tag : String} {encode : α → String × List (String × Json)}
    {content : String → Option (Doc → Except Fault α)}
    (described : ∀ a, Described tag depth (encode a).2 (content (encode a).1) a) :
    (tagged tag encode content).Lawful (depth + 1) := by
  refine ⟨fun place admits a => ?_, fun a => ?_, fun a => ?_⟩
  · obtain ⟨inner, enter, admits⟩ := Place.enter_of_admits admits
    obtain ⟨read, known, result⟩ := (described a).read
    have others (readTag : Doc → Except Fault (Doc → Except Fault α)) :=
      splitTag_of_others readTag (some read) (described a).untagged (described a).isFaultless admits
    simp [tagged, Json.doc, Json.docEntries, enter, splitTag, text, known, others, result,
      Fault.check, bind, Except.bind, pure, Except.pure, Except.mapError]
  · exact isFaultless_record (List.forall_mem_cons.2 ⟨fun _ _ => rfl, (described a).isFaultless⟩)
  · exact ⟨trivial, (described a).inRange⟩

/-! ## The compact text -/

/-- A lawful codec reads every value back from its compact text. -/
theorem Lawful.read_write {c : Codec α} (lawful : c.Lawful depth) (shallow : depth ≤ 127) (a : α) :
    c.read (symbols (c.write a)) = .ok a := by
  rw [read, write, Doc.read_compact _ (lawful.inRange a)]
  simp [lawful.decode_doc .whole shallow, Fault.check, bind, Except.bind, pure, Except.pure]

end Codec

end FlagAlerts
