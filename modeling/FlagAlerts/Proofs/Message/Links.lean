import FlagAlerts.Message.Layout
import FlagAlerts.Proofs.Message.Escape
import FlagAlerts.Proofs.Text.Decimal
import FlagAlerts.Proofs.Text.Split

/-!
# The links of messages

A reader of a text takes an opening bracket as the start of a control sequence, which the next closing
bracket ends; its target ends at its first bar, and its label is what follows. A message that lists
things has one link for each of them, in order, that leads to the page of the thing and is labelled
with its name, as long as no id and no code of an environment breaks it. Names, editors, types of
changes and everything else that is shown are escaped, and break nothing.
-/

namespace FlagAlerts.Message

open FlagAlerts.Text FlagAlerts.Calendar

/-! ## Reading a text -/

/-- A control sequence: its target, and its label if there is one. -/
structure Control where
  target : List Char
  label? : Option (List Char)
  deriving Repr, DecidableEq

/-- What a reader finds in a text: control sequences, and what stands outside of them. -/
structure Markup where
  controls : List Control := []
  outside : List Char := []
  deriving Repr, DecidableEq

/-- The control sequence with the given characters between its brackets. -/
def Control.ofInside (inside : List Char) : Control :=
  match cut? '|' inside with
  | some (target, label) => ⟨target, some label⟩
  | none => ⟨inside, none⟩

/-- Reads on, outside of control sequences, or inside of one that has begun with the given
characters. One that does not end is none. -/
def readFrom : Option (List Char) → List Char → Markup
  | none, [] => {}
  | some inside, [] => { outside := '<' :: inside }
  | none, c :: rest =>
    if c = '<' then readFrom (some []) rest
    else
      let found := readFrom none rest
      { found with outside := c :: found.outside }
  | some inside, c :: rest =>
    if c = '>' then
      let found := readFrom none rest
      { found with controls := .ofInside inside :: found.controls }
    else readFrom (some (inside ++ [c])) rest

/-- What a reader finds in a text. -/
def markup (s : String) : Markup := readFrom none s.toList

section Reading

variable {body inside rest : List Char}

/-- Outside of control sequences a reader takes what has no angle brackets as it is. -/
theorem readFrom_plain (plain : IsPlain body) (rest : List Char) :
    readFrom none (body ++ rest) =
      { readFrom none rest with outside := body ++ (readFrom none rest).outside } := by
  induction body with
  | nil => rfl
  | cons c body ih =>
    have notOpening := (plain c List.mem_cons_self).1
    have later := ih fun d member => plain d (List.mem_cons_of_mem c member)
    rw [List.cons_append, readFrom, if_neg notOpening, later]
    rfl

/-- A control sequence goes on up to the next closing bracket. -/
theorem readFrom_inside (unclosed : '>' ∉ body) (inside rest : List Char) :
    readFrom (some inside) (body ++ '>' :: rest) =
      { readFrom none rest with
        controls := .ofInside (inside ++ body) :: (readFrom none rest).controls } := by
  induction body generalizing inside with
  | nil => rw [List.nil_append, readFrom, if_pos rfl, List.append_nil]
  | cons c body ih =>
    have other : c ≠ '>' := fun same => unclosed (same ▸ List.mem_cons_self)
    have later := ih (fun member => unclosed (List.mem_cons_of_mem c member)) (inside ++ [c])
    rw [List.cons_append, readFrom, if_neg other, later, List.append_assoc, List.singleton_append]

theorem ofInside_append {target label : List Char} (unbarred : '|' ∉ target) :
    Control.ofInside (target ++ '|' :: label) = ⟨target, some label⟩ := by
  rw [Control.ofInside, cut?_append unbarred]

/-- A target has no bar, and nothing that was not between the brackets. -/
theorem target_ofInside (inside : List Char) :
    '|' ∉ (Control.ofInside inside).target ∧
      ∀ c ∈ (Control.ofInside inside).target, c ∈ inside := by
  unfold Control.ofInside
  split
  next target label isCut =>
    have whole := eq_of_cut? isCut
    exact ⟨not_mem_of_cut?_eq_some isCut, fun c member => whole ▸ List.mem_append_left _ member⟩
  next uncut => exact ⟨not_mem_of_cut? uncut, fun _ member => member⟩

/-- No target that a reader finds has a bar or a closing bracket. -/
theorem target_readFrom (cs : List Char) {begun : Option (List Char)}
    (unclosed : ∀ inside, begun = some inside → '>' ∉ inside) :
    ∀ k ∈ (readFrom begun cs).controls, '|' ∉ k.target ∧ '>' ∉ k.target := by
  induction cs generalizing begun with
  | nil => cases begun <;> simp [readFrom]
  | cons c rest ih =>
    cases begun with
    | none =>
      rw [readFrom]
      split
      next => exact ih (by simp)
      next => exact ih (by simp)
    | some inside =>
      have unended := unclosed inside rfl
      rw [readFrom]
      split
      next =>
        intro k member
        rcases List.mem_cons.1 member with rfl | later
        · obtain ⟨unbarred, within⟩ := target_ofInside inside
          exact ⟨unbarred, fun closing => unended (within _ closing)⟩
        · exact ih (by simp) k later
      next other =>
        refine ih fun longer same => ?_
        obtain rfl := Option.some.inj same
        simpa [Ne.symm other] using unended

end Reading

/-! ## What is listed -/

/-- A thing that a notification lists. -/
structure Listed where
  kind : EntityKind
  id : String
  name : String
  deriving Repr, DecidableEq

/-- The things that a notification lists, in order. -/
def listed (n : Notification) : List Listed :=
  match n.body with
  | .featureStale features => features.map fun f => ⟨.feature, f.id, f.name⟩
  | .experimentRunning experiments => experiments.map fun e => ⟨.experiment, e.id, e.name⟩
  | .domainEvent .. | .mauCount .. => []

/-- A text cannot end the target of a link. -/
def IsUnbroken (s : String) : Prop := '|' ∉ s.toList ∧ '>' ∉ s.toList

instance (s : String) : Decidable (IsUnbroken s) := inferInstanceAs (Decidable (_ ∧ _))

/-- The page that a listed thing is to be linked to. -/
def pageOf (c : Console) (n : Notification) (item : Listed) : String :=
  c.entityUrl (.known item.kind) item.id n.environmentUrlCode

/-- A reader of the text finds one control sequence for each listed thing, in order, with the page of
the thing as its target and the name as its label, and no angle bracket anywhere else. -/
structure LinksTo (c : Console) (n : Notification) (text : String) : Prop where
  controls : (markup text).controls.map (fun k => (k.target, k.label?.map unescapeChars)) =
    (listed n).map fun item => ((pageOf c n item).toList, some item.name.toList)
  outside : IsPlain (markup text).outside

/-- The texts of a message that are not the text of an attachment. -/
def ChannelMessage.captions (m : ChannelMessage) : List String :=
  m.text :: m.attachments.flatMap fun a =>
    a.color :: a.title :: a.fields.flatMap fun f => [f.title, f.value]

/-! ## Lines with links -/

/-- A line of a listing: a link to the page of a thing, and nothing else with an angle bracket. -/
def IsLine (c : Console) (n : Notification) (item : Listed) (line : String) : Prop :=
  ∃ suffix : String, IsPlain suffix.toList ∧
    line = bullet (link (pageOf c n item) item.name) ++ suffix

/-- The control sequence that a reader is to find in the line of a thing. -/
def controlOf (c : Console) (n : Notification) (item : Listed) : Control :=
  ⟨(pageOf c n item).toList, some (escape item.name).toList⟩

section Lines

variable {c : Console} {n : Notification}

/-- In a line a reader finds the link, if its target is unbroken. -/
theorem readFrom_line {item : Listed} {line : String} (isLine : IsLine c n item line)
    (unbroken : IsUnbroken (pageOf c n item)) (rest : List Char) :
    ∃ shown, IsPlain shown ∧ readFrom none (line.toList ++ rest) =
      ⟨controlOf c n item :: (readFrom none rest).controls,
        shown ++ (readFrom none rest).outside⟩ := by
  obtain ⟨suffix, plain, rfl⟩ := isLine
  obtain ⟨unbarred, unclosed⟩ := unbroken
  have spelled : (bullet (link (pageOf c n item) item.name) ++ suffix).toList ++ rest =
      ['•', ' '] ++ '<' :: (((pageOf c n item).toList ++ '|' :: (escape item.name).toList) ++
        '>' :: (suffix.toList ++ rest)) := by
    simp [bullet, link]
  have within : '>' ∉ (pageOf c n item).toList ++ '|' :: (escape item.name).toList := by
    have escaped : '>' ∉ (escape item.name).toList := fun member =>
      (isPlain_escape item.name '>' member).2 rfl
    simp only [List.mem_append, List.mem_cons, not_or]
    exact ⟨unclosed, by simp, escaped⟩
  have bullet : IsPlain ['•', ' '] := isPlain_of_all rfl
  have opens (cs : List Char) : readFrom none ('<' :: cs) = readFrom (some []) cs := by
    rw [readFrom, if_pos rfl]
  refine ⟨['•', ' '] ++ suffix.toList, isPlain_append.2 ⟨bullet, plain⟩, ?_⟩
  rw [spelled, readFrom_plain bullet, opens, readFrom_inside within, List.nil_append,
    readFrom_plain plain, ofInside_append unbarred, List.append_assoc]
  rfl

/-- In a listing a reader finds the links of its lines. -/
theorem markup_lines {α : Type} {item : α → Listed} {line : α → String}
    (isLine : ∀ a, IsLine c n (item a) (line a)) (as : List α)
    (unbroken : ∀ a ∈ as, IsUnbroken (pageOf c n (item a))) :
    (markup ("\n".intercalate (as.map line))).controls =
        as.map (fun a => controlOf c n (item a)) ∧
      IsPlain (markup ("\n".intercalate (as.map line))).outside := by
  have newline : IsPlain ['\n'] := isPlain_of_all rfl
  have separator : "\n".toList = ['\n'] := rfl
  rw [markup, String.toList_intercalate, List.map_map, separator]
  induction as with
  | nil => exact ⟨rfl, isPlain_of_all rfl⟩
  | cons a rest ih =>
    obtain ⟨controls, outside⟩ := ih fun b member => unbroken b (List.mem_cons_of_mem a member)
    have first := readFrom_line (isLine a) (unbroken a List.mem_cons_self)
    cases rest with
    | nil =>
      obtain ⟨shown, plain, read⟩ := first []
      rw [List.append_nil] at read
      rw [List.map_singleton, List.intercalate_singleton, Function.comp_apply, read]
      exact ⟨rfl, isPlain_append.2 ⟨plain, outside⟩⟩
    | cons b more =>
      obtain ⟨shown, plain, read⟩ := first
        (['\n'] ++ ['\n'].intercalate ((b :: more).map (String.toList ∘ line)))
      rw [readFrom_plain newline, ← List.append_assoc, ← List.append_assoc] at read
      rw [List.map_cons, List.map_cons, List.intercalate_cons_cons, ← List.map_cons,
        Function.comp_apply, read]
      exact ⟨congrArg (_ :: ·) controls, isPlain_append.2 ⟨isPlain_append.2 ⟨plain, newline⟩, outside⟩⟩

end Lines

/-! ## Pages -/

theorem isUnbroken_append {a b : String} : IsUnbroken (a ++ b) ↔ IsUnbroken a ∧ IsUnbroken b := by
  simp only [IsUnbroken, String.toList_append, List.mem_append, not_or]
  exact and_and_and_comm

/-- The address of a console has no characters but those of the given one. -/
theorem mem_of_ofUrl {url : String} {d : Char} (member : d ∈ (Console.ofUrl url).address.toList) :
    d ∈ url.toList := by
  rw [Console.ofUrl, String.toList_ofList, List.mem_reverse] at member
  exact List.mem_reverse.1 ((List.dropWhile_sublist _).mem member)

section Pages

variable {c : Console} {n : Notification} {item : Listed}

theorem isUnbroken_environmentUrl (address : IsUnbroken c.address) (urlCode : String) :
    IsUnbroken (c.environmentUrl urlCode) ↔ IsUnbroken urlCode := by
  unfold Console.environmentUrl
  split
  next empty =>
    rw [String.isEmpty_iff.1 empty]
    exact iff_of_true address (by decide)
  next =>
    have slash : IsUnbroken "/" := by decide
    simp only [isUnbroken_append, address, slash, true_and]

/-- A thing is linked to a page that is spelled with the code of the environment and its id. -/
theorem isUnbroken_pageOf (address : IsUnbroken c.address) (isListed : item ∈ listed n) :
    IsUnbroken (pageOf c n item) ↔ IsUnbroken item.id ∧ IsUnbroken n.environmentUrlCode := by
  have environment := isUnbroken_environmentUrl address n.environmentUrlCode
  have slash : IsUnbroken "/" := by decide
  have features : IsUnbroken "features/" := by decide
  have experiments : IsUnbroken "experiments/" := by decide
  have kind : item.kind = .feature ∨ item.kind = .experiment := by
    unfold listed at isListed
    split at isListed
    · obtain ⟨f, -, rfl⟩ := List.mem_map.1 isListed
      exact .inl rfl
    · obtain ⟨e, -, rfl⟩ := List.mem_map.1 isListed
      exact .inr rfl
    · cases isListed
    · cases isListed
  rcases kind with kind | kind <;>
    simp only [pageOf, kind, Console.entityUrl, isUnbroken_append, environment, slash, features,
      experiments, true_and, and_comm]

end Pages

/-! ## Texts that are shown -/

theorem isPlain_phrase (l : Language) (p : Phrase) : IsPlain (l.phrase p).toList := by
  apply isPlain_of_all
  cases l <;> cases p <;> decide +kernel

theorem isPlain_entityType (l : Language) (t : EntityType) : IsPlain (l.entityType t).toList := by
  apply isPlain_of_all
  cases l <;> cases t with
  | unknown => decide +kernel
  | known kind => cases kind <;> decide +kernel

theorem isPlain_digits (n : Nat) : IsPlain (digits n) := by
  intro d member
  have digit := isDigit_of_mem_digits n d member
  constructor <;>
  · rintro rfl
    exact absurd digit (by decide)

theorem isPlain_padded (width n : Nat) : IsPlain (padded width n).toList := by
  rw [padded, String.toList_ofList, paddedDigits]
  refine isPlain_append.2 ⟨?_, isPlain_digits n⟩
  intro d member
  rw [(List.mem_replicate.1 member).2]
  decide

theorem isPlain_decimalInt (z : Int) : IsPlain (decimalInt z).toList := by
  cases z with
  | ofNat n =>
    rw [decimalInt, toList_decimal]
    exact isPlain_digits n
  | negSucc n =>
    rw [decimalInt, String.toList_append, toList_decimal]
    exact isPlain_append.2 ⟨isPlain_of_all rfl, isPlain_digits (n + 1)⟩

theorem isPlain_date (d : Date) : IsPlain d.text.toList := by
  have hyphen : IsPlain "-".toList := isPlain_of_all rfl
  have year : IsPlain (Date.yearText d.year).toList := by
    unfold Date.yearText
    split
    · exact isPlain_padded 4 _
    · rw [String.toList_append]
      refine isPlain_append.2 ⟨?_, isPlain_padded 4 _⟩
      split <;> exact isPlain_of_all rfl
  simp only [Date.text, String.toList_append, isPlain_append]
  exact ⟨⟨⟨⟨year, hyphen⟩, isPlain_padded 2 _⟩, hyphen⟩, isPlain_padded 2 _⟩

theorem isPlain_title {before : String} (plain : IsPlain before.toList) (s : String) :
    IsPlain (before ++ ": " ++ escape s).toList := by
  simp only [String.toList_append, isPlain_append]
  exact ⟨⟨plain, isPlain_of_all rfl⟩, isPlain_escape s⟩

section Layouts

variable (c : Console) (l : Language) (n : Notification)

/-- Fields of a message have no angle brackets. -/
theorem isPlain_fields : ∀ f ∈ (attachmentOf c l n).fields, IsPlain f.title.toList ∧
    IsPlain f.value.toList := by
  have phrase := isPlain_phrase l
  unfold attachmentOf
  cases n.body with
  | domainEvent editor entityType entityId eventType entityData =>
    simp only [domainEventAttachment, List.forall_mem_append, List.forall_mem_cons]
    refine ⟨⟨⟨phrase _, isPlain_escape _⟩, ⟨phrase _, isPlain_escape _⟩, by simp⟩, ?_⟩
    split
    · simp
    · simpa using ⟨phrase .environment, isPlain_escape n.environmentUrlCode⟩
  | featureStale features => simp [environmentAttachment]
  | experimentRunning experiments => simp [environmentAttachment]
  | mauCount count year month =>
    have hyphen : IsPlain "-".toList := isPlain_of_all rfl
    simp only [environmentAttachment, mauCountFields, List.forall_mem_cons, String.toList_append,
      isPlain_append]
    exact ⟨⟨phrase _, ⟨isPlain_decimalInt _, hyphen⟩, isPlain_padded 2 _⟩,
      ⟨phrase _, isPlain_decimalInt _⟩, ⟨phrase _, isPlain_decimalInt _⟩, by simp⟩

/-- Nothing that is shown beside the text of an attachment has an angle bracket. -/
theorem isPlain_captions : ∀ t ∈ (render c l n).captions, IsPlain t.toList := by
  have color : IsPlain (attachmentOf c l n).color.toList := by
    have plain : ∀ color ∈ ["#36a64f", "warning", "#439fe0", "good"],
        (color.toList.all fun c => c != '<' && c != '>') = true := by decide +kernel
    refine isPlain_of_all (plain _ ?_)
    unfold attachmentOf
    cases n.body <;> simp [domainEventAttachment, environmentAttachment]
  have title : IsPlain (attachmentOf c l n).title.toList := by
    unfold attachmentOf
    cases n.body with
    | domainEvent => exact isPlain_title (isPlain_entityType l _) _
    | _ => exact isPlain_title (isPlain_phrase l _) _
  simp only [ChannelMessage.captions, render, List.flatMap_cons, List.flatMap_nil, List.append_nil,
    List.forall_mem_cons, List.forall_mem_flatMap]
  refine ⟨isPlain_phrase l _, color, title, fun f member => ?_⟩
  simpa using isPlain_fields c l n f member

/-- The text of an attachment lists the things of the notification, each in a line with a link. -/
theorem exists_lines : ∃ (α : Type) (as : List α) (item : α → Listed) (line : α → String),
    listed n = as.map item ∧ (attachmentOf c l n).text = "\n".intercalate (as.map line) ∧
      ∀ a, IsLine c n (item a) (line a) := by
  unfold attachmentOf listed
  cases n.body with
  | domainEvent | mauCount =>
    exact ⟨Unit, [], fun _ => ⟨.feature, "", ""⟩, _, rfl, rfl, fun _ => ⟨"", isPlain_of_all rfl, rfl⟩⟩
  | featureStale features =>
    refine ⟨Feature, features, _, featureLine c n.environmentUrlCode, rfl, rfl, fun f => ?_⟩
    exact ⟨"", isPlain_of_all rfl, by simp [featureLine, pageOf]⟩
  | experimentRunning experiments =>
    refine ⟨Experiment, experiments, _, experimentLine c l n.environmentUrlCode, rfl, rfl, fun e => ?_⟩
    refine ⟨_, ?_, rfl⟩
    split
    next day dated =>
      have blank : IsPlain " ".toList := isPlain_of_all rfl
      have dayPlain : IsPlain day.toList := by
        unfold dayText? at dated
        split at dated
        · obtain rfl := Option.some.inj dated
          exact isPlain_date _
        · cases dated
      simp only [String.toList_append, isPlain_append]
      exact ⟨⟨⟨⟨isPlain_of_all rfl, isPlain_phrase l _⟩, blank⟩, dayPlain⟩, isPlain_of_all rfl⟩
    next => exact isPlain_of_all rfl

end Layouts

/-- A message shows no angle bracket beside the text of its attachment, and in that text a reader finds
one link for each listed thing, in order, to its page and with its name, exactly if no id of a listed
thing and no code of their environment has a bar or a closing bracket. -/
theorem links_are_found_iff_unbroken {url : String}
    (address : ∀ d ∈ url.toList, d ≠ '<' ∧ d ≠ '>' ∧ d ≠ '|') (l : Language) (n : Notification) :
    (∀ t ∈ (render (.ofUrl url) l n).captions, IsPlain t.toList) ∧
      ∃ a, (render (.ofUrl url) l n).attachments = [a] ∧
        (LinksTo (.ofUrl url) n a.text ↔
          ∀ item ∈ listed n, IsUnbroken item.id ∧ IsUnbroken n.environmentUrlCode) := by
  have clean : IsUnbroken (Console.ofUrl url).address := by
    constructor
    · exact fun bar => (address _ (mem_of_ofUrl bar)).2.2 rfl
    · exact fun closing => (address _ (mem_of_ofUrl closing)).2.1 rfl
  refine ⟨isPlain_captions _ l n, _, rfl, ?_, ?_⟩
  · intro links item isListed
    refine (isUnbroken_pageOf clean isListed).1 ?_
    have member : ((pageOf (.ofUrl url) n item).toList, some item.name.toList) ∈
        (markup (attachmentOf (.ofUrl url) l n).text).controls.map fun k =>
          (k.target, k.label?.map unescapeChars) := by
      rw [links.controls]
      exact List.mem_map_of_mem isListed
    obtain ⟨k, found, same⟩ := List.mem_map.1 member
    have target : k.target = (pageOf (.ofUrl url) n item).toList := congrArg (·.1) same
    rw [IsUnbroken, ← target]
    exact target_readFrom _ (by simp) k found
  · intro unbroken
    obtain ⟨α, as, item, line, things, text, isLine⟩ := exists_lines (.ofUrl url) l n
    have pages : ∀ a ∈ as, IsUnbroken (pageOf (.ofUrl url) n (item a)) := by
      intro a member
      have isListed : item a ∈ listed n := things ▸ List.mem_map_of_mem member
      exact (isUnbroken_pageOf clean isListed).2 (unbroken _ isListed)
    obtain ⟨controls, outside⟩ := markup_lines isLine as pages
    rw [← text] at controls outside
    refine ⟨?_, outside⟩
    have label (a : α) : unescapeChars (escape (item a).name).toList = (item a).name.toList := by
      have same := congrArg String.toList (unescape_escape (item a).name)
      rwa [unescape, String.toList_ofList] at same
    simp only [controls, things, List.map_map, Function.comp_def, controlOf, Option.map_some, label]

/-- A console with a path of its own. -/
def sampleUrl : String := "https://console.example.com/app/"

/-- Flags of which one has brackets in its name. -/
def staleFlags (id : String) : Notification :=
  ⟨"e1", "prod",
    .featureStale [{ id := id, name := "a<b>", enabled := true },
      { id := "f2", name := "old & new", enabled := true }]⟩

/-- A name with brackets does not break its link, nor one with an ampersand. -/
theorem bracketed_name_is_one_label :
    (∀ d ∈ sampleUrl.toList, d ≠ '<' ∧ d ≠ '>' ∧ d ≠ '|') ∧
      ∃ a, (render (.ofUrl sampleUrl) .english (staleFlags "f1")).attachments = [a] ∧
        LinksTo (.ofUrl sampleUrl) (staleFlags "f1") a.text ∧
        (markup a.text).controls.map (fun k => (String.ofList k.target, k.label?.map String.ofList)) =
          [("https://console.example.com/app/prod/features/f1", some "a&lt;b&gt;"),
            ("https://console.example.com/app/prod/features/f2", some "old &amp; new")] := by
  have address : ∀ d ∈ sampleUrl.toList, d ≠ '<' ∧ d ≠ '>' ∧ d ≠ '|' := by
    have all : (sampleUrl.toList.all fun d => d != '<' && d != '>' && d != '|') = true := by
      decide +kernel
    intro d member
    simpa [and_assoc] using List.all_eq_true.1 all d member
  obtain ⟨-, a, same, iff⟩ := links_are_found_iff_unbroken address .english (staleFlags "f1")
  have unbroken : ∀ item ∈ listed (staleFlags "f1"),
      IsUnbroken item.id ∧ IsUnbroken (staleFlags "f1").environmentUrlCode := by decide +kernel
  obtain rfl := List.singleton_inj.1 same
  exact ⟨address, _, rfl, iff.2 unbroken, by decide +kernel⟩

/-- An id with a closing bracket ends its link in the middle. -/
theorem bracketed_id_ends_its_link :
    ∃ a, (render (.ofUrl sampleUrl) .english (staleFlags "a>b")).attachments = [a] ∧
      ¬LinksTo (.ofUrl sampleUrl) (staleFlags "a>b") a.text ∧
      (markup a.text).controls.map (fun k => (String.ofList k.target, k.label?.map String.ofList)) =
        [("https://console.example.com/app/prod/features/a", none),
          ("https://console.example.com/app/prod/features/f2", some "old &amp; new")] := by
  refine ⟨_, rfl, fun links => ?_, by decide +kernel⟩
  have controls := links.controls
  revert controls
  decide +kernel

end FlagAlerts.Message
