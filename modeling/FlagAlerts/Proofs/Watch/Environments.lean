import FlagAlerts.Proofs.Store.Contents
import FlagAlerts.Proofs.Watch.Visits
import FlagAlerts.Watch.RunningExperiments
import FlagAlerts.Watch.StaleFeatures
import Mathlib.Data.List.Basic

/-!
# The scans of the environments

The watchers of feature flags and of experiments look for different things in the same way: in every
environment that is not archived they ask for what it holds, and if some of it is what they look for
they hand on one event that lists just that. So the event about an environment depends on nothing but
what that environment holds, and what fails elsewhere, in a store or in sending, leaves it as it is.

Experiments are told by their status, which is as it is. Flags are told by their age, which is reckoned
in 64 bits: where it does not fit, a flag may be taken for one that is in use, or the other way round.
-/

namespace FlagAlerts.Watch

/-! ## What is looked for -/

/-- What a watcher looks for in environments, and how it tells of it. -/
structure Lookout (ι : Type) where
  /-- What an environment holds, or why that is not told. -/
  held : Contents → (environmentId : String) → Except StoreError (List ι)
  isSelected : ι → Bool
  refused : (environmentId : String) → StoreError → ScanError
  report : Report
  sourceType : SourceType
  body : List ι → NotificationBody
  /-- The pages on which a store lists what an environment holds. -/
  pages : Contents → (environmentId : String) → Nat
  /-- What can be seen of asking for one page. -/
  asked : (environmentId : String) → Effect

namespace Lookout

variable {ι : Type}

/-- The event about an environment that lists things. -/
def eventAbout (l : Lookout ι) (newId : String) (e : Environment) (items : List ι) :
    NotificationEvent where
  id := newId
  environmentId := e.id
  sourceType := l.sourceType
  notification := ⟨e.id, e.urlCode, l.body items⟩
  isAdminEvent := false

/-- What a watcher comes to in an environment: one event about the environment that lists what is
selected there, in the store's order, or nothing if that is none of it. -/
def finding (l : Lookout ι) (c : Contents) (newId : String) (e : Environment) : Finding :=
  match l.held c e.id with
  | .error why => .refused (l.refused e.id why)
  | .ok items =>
    match items.filter l.isSelected with
    | [] => .nothing
    | selected => .found (l.eventAbout newId e selected)

/-- What can be seen of asking for all that an environment holds. -/
def questions (l : Lookout ι) (c : Contents) (e : Environment) : List Effect :=
  List.replicate (l.pages c e.id) (l.asked e.id)

/-- The same, but other things are selected. -/
def selecting (l : Lookout ι) (isSelected : ι → Bool) : Lookout ι := { l with isSelected }

end Lookout

/-- The seconds from an instant of use up to now, which may be any number. -/
def elapsed (now : Int) (used : Int64) : Int := now - used.toInt

/-- A flag is unused if it was last used more than a threshold ago, as ages are reckoned; not if it is
archived or off with nothing to serve then. -/
def IsUnused (ageOf : Int64 → Int) (thresholdSeconds : Int) (f : Feature) : Prop :=
  f.archived = false ∧ (∃ used ∈ f.lastUsedAt, thresholdSeconds < ageOf used) ∧
    ¬(f.enabled = false ∧ f.offVariation = "")

instance (ageOf : Int64 → Int) (thresholdSeconds : Int) (f : Feature) :
    Decidable (IsUnused ageOf thresholdSeconds f) :=
  inferInstanceAs (Decidable (_ ∧ (∃ used ∈ f.lastUsedAt, _) ∧ ¬(_ ∧ _)))

/-- Flags that are not used any more, as ages are reckoned. -/
def unusedFeatures (ageOf : Int64 → Int) (thresholdSeconds : Int) : Lookout Feature where
  held := Contents.features
  isSelected f := IsUnused ageOf thresholdSeconds f
  refused := .listFeatures
  report := .staleFeatures
  sourceType := .featureStale
  body := .featureStale
  pages := Contents.featurePages
  asked := .listedFeatures

/-- Whether a flag is unused comes out differently if its age is reckoned in 64 bits. -/
def IsMisjudged (now thresholdSeconds : Int) (f : Feature) : Prop :=
  ¬(IsUnused (age now) thresholdSeconds f ↔ IsUnused (elapsed now) thresholdSeconds f)

/-- An age that 64 bits have room for. -/
def Fits (seconds : Int) : Prop := minInt64 ≤ seconds ∧ seconds ≤ maxInt64

instance (seconds : Int) : Decidable (Fits seconds) := inferInstanceAs (Decidable (_ ∧ _))

/-- Experiments that are running. -/
def runningExperiments : Lookout Experiment where
  held := Contents.experiments
  isSelected e := e.status = .running
  refused := .listExperiments
  report := .runningExperiments
  sourceType := .experimentRunning
  body := .experimentRunning
  pages := Contents.experimentPages
  asked := .listedExperiments

/-! ## Ages -/

section Ages

variable {now thresholdSeconds : Int} {used : Int64} {f : Feature}

theorem age_eq_bmod (now : Int) (used : Int64) : age now used = (elapsed now used).bmod (2 ^ 64) := by
  rw [age, Int64.toInt_sub, Int64.toInt_ofInt, elapsed]
  exact Int.bmod_sub_bmod

/-- An age that fits is reckoned as it is. -/
theorem age_eq_elapsed (fits : Fits (elapsed now used)) : age now used = elapsed now used := by
  obtain ⟨least, most⟩ := fits
  unfold minInt64 at least
  unfold maxInt64 at most
  rw [age_eq_bmod]
  apply Int.bmod_eq_of_le <;> omega

/-- An age that is too large comes out as a negative one, if now is an instant of 64 bits. -/
theorem age_neg (late : now ≤ maxInt64) (long : maxInt64 < elapsed now used) : age now used < 0 := by
  have least : minInt64 ≤ used.toInt := used.le_toInt
  unfold minInt64 at least
  unfold maxInt64 at late long
  have apart : elapsed now used = now - used.toInt := rfl
  have wrapped : age now used = elapsed now used - 2 ^ 64 := by
    rw [age_eq_bmod, ← Int.sub_bmod_right]
    apply Int.bmod_eq_of_le <;> omega
  omega

/-- A flag is misjudged only if its age does not fit. -/
theorem IsMisjudged.not_fits (misjudged : IsMisjudged now thresholdSeconds f) :
    ∃ used ∈ f.lastUsedAt, ¬Fits (elapsed now used) := by
  by_contra none
  apply misjudged
  have same : ∀ used ∈ f.lastUsedAt, age now used = elapsed now used := by
    intro used last
    apply age_eq_elapsed
    by_contra out
    exact none ⟨used, last, out⟩
  have exceeds : (∃ used ∈ f.lastUsedAt, thresholdSeconds < age now used) ↔
      ∃ used ∈ f.lastUsedAt, thresholdSeconds < elapsed now used := by
    refine exists_congr fun used => and_congr_right fun last => ?_
    rw [same used last]
  rw [IsUnused, IsUnused, exceeds]

/-- From 1970 on, and with a threshold that is not negative, a flag is misjudged if its age is too
large and there is no other reason why it is not stale. -/
theorem isMisjudged_iff (early : 0 ≤ now) (late : now ≤ maxInt64) (least : 0 ≤ thresholdSeconds)
    (most : thresholdSeconds ≤ maxInt64) :
    IsMisjudged now thresholdSeconds f ↔
      f.archived = false ∧ ¬(f.enabled = false ∧ f.offVariation = "") ∧
        ∃ used ∈ f.lastUsedAt, maxInt64 < elapsed now used := by
  constructor
  · intro misjudged
    obtain ⟨used, last, out⟩ := misjudged.not_fits
    have long : maxInt64 < elapsed now used := by
      have below : used.toInt ≤ maxInt64 := Int.le_of_lt_add_one used.toInt_lt
      unfold Fits elapsed minInt64 at *
      unfold maxInt64 at *
      omega
    refine ⟨?_, ?_, used, last, long⟩
    · by_contra archived
      exact misjudged (iff_of_false (fun unused => archived unused.1) fun unused => archived unused.1)
    · intro retired
      exact misjudged (iff_of_false (fun unused => unused.2.2 retired) fun unused => unused.2.2 retired)
  · rintro ⟨unarchived, inUse, used, last, long⟩ same
    have unused : IsUnused (elapsed now) thresholdSeconds f :=
      ⟨unarchived, ⟨used, last, Int.lt_of_le_of_lt most long⟩, inUse⟩
    obtain ⟨-, ⟨other, last', exceeds⟩, -⟩ := same.2 unused
    obtain rfl : used = other := Option.mem_unique last last'
    have negative := age_neg late long
    omega

end Ages

/-! ## The visit of an environment -/

section Visits

variable {p : Platform} {c : Contents}

/-- The scan picks the flags that are unused, with ages of 64 bits. -/
theorem isUnused_eq (now thresholdSeconds : Int) (f : Feature) :
    decide (IsUnused (age now) thresholdSeconds f) =
      (!f.archived && isStale f now thresholdSeconds) := by
  cases last : f.lastUsedAt with
  | none => simp [IsUnused, isStale, last]
  | some used =>
    rw [Bool.eq_iff_iff]
    simp [IsUnused, isStale, Feature.isRetired, last, and_comm]

/-- Answers of which the same is kept are both refused alike or both given. -/
theorem eq_of_map_eq_map {ε α β : Type} {f : α → β} {a b : Except ε α} (same : a.map f = b.map f) :
    (∃ e, a = .error e ∧ b = .error e) ∨ ∃ x y, a = .ok x ∧ b = .ok y ∧ f x = f y := by
  cases a with
  | error e =>
    cases b with
    | error e' =>
      cases same
      exact .inl ⟨e, rfl, rfl⟩
    | ok y => cases same
  | ok x =>
    cases b with
    | error e' => cases same
    | ok y => exact .inr ⟨x, y, rfl, rfl, Except.ok.inj same⟩

/-- Flags that are archived do not matter for which ones are unused. -/
theorem filter_isUnused (now thresholdSeconds : Int) (features : List Feature) :
    features.filter (fun f => IsUnused (age now) thresholdSeconds f) =
      (present features).filter fun f => isStale f now thresholdSeconds := by
  rw [present, List.filter_filter]
  apply List.filter_congr
  intro f _
  rw [isUnused_eq, Bool.and_comm]

theorem visitFeatures_comesTo (offers : p.Offers c) (s : Sender) (newId : String)
    (now thresholdSeconds : Int) (e : Environment) :
    let l := unusedFeatures (age now) thresholdSeconds
    ComesTo s l.report (visitFeatures p s newId now thresholdSeconds e) (l.questions c e)
      (l.finding c newId e) := by
  intro l
  obtain ⟨told, asked⟩ := offers.allFeatures e.id
  have questions : l.questions c e = (p.allFeatures e.id).acts := asked.symm
  rw [questions]
  apply ComesTo.after
  unfold Lookout.finding l unusedFeatures
  dsimp only
  obtain ⟨why, listed, held⟩ | ⟨items, features, listed, held, same⟩ := eq_of_map_eq_map told
  · rw [listed, held]
    exact refused_comesTo s _ _
  · rw [listed, held]
    simp only [← isUnused_eq, filter_isUnused, same]
    cases (present features).filter fun f => isStale f now thresholdSeconds with
    | nil => exact nothing_comesTo s _
    | cons first more => exact report_comesTo s _ _

theorem visitExperiments_comesTo (offers : p.Offers c) (s : Sender) (newId : String)
    (e : Environment) :
    let l := runningExperiments
    ComesTo s l.report (visitExperiments p s newId e) (l.questions c e) (l.finding c newId e) := by
  intro l
  obtain ⟨listed, asked⟩ := offers.allRunningExperiments e.id
  have questions : l.questions c e = (p.allRunningExperiments e.id).acts := asked.symm
  rw [questions]
  apply ComesTo.after
  rw [listed]
  unfold Lookout.finding l runningExperiments
  dsimp only
  cases c.experiments e.id with
  | error why => exact refused_comesTo s _ _
  | ok items =>
    simp only [Except.map]
    cases items.filter fun e => e.status = .running with
    | nil => exact nothing_comesTo s _
    | cons first more => exact report_comesTo s _ _

end Visits

/-! ## The scan of all environments -/

/-- A scan of the environments that looks for something: it ends at once if the environments are not
told. Otherwise it visits each one that is not archived, once and in order, asks for every page of what
it holds, and hands on what it has found there and nothing else; its failures are those of its visits. -/
structure ScansFor {ι : Type} (l : Lookout ι) (c : Contents) (s : Sender) (newId : String)
    (scan : Work (Except ScanFailure Unit)) : Prop where
  untold : ∀ why, c.environments = .error why →
    scan.acts = [] ∧ scan.result = .error ⟨.listEnvironments why, 1⟩
  asks : ∀ e : Environment, 0 < l.pages c e.id
  visits : ∀ environments, c.environments = .ok environments →
    scan.acts = (active environments).flatMap fun e =>
      l.questions c e ++ (l.finding c newId e).traces s
  reports : ∀ environments, c.environments = .ok environments →
    Effect.events scan.acts = (active environments).filterMap fun e => (l.finding c newId e).event?
  ends : ∀ environments, c.environments = .ok environments →
    EndsWith ((active environments).filterMap fun e => (l.finding c newId e).failure? s l.report)
      scan.result

/-- What is handed on about the environments for which it holds. -/
def about (isOf : String → Bool) (es : List Effect) : List NotificationEvent :=
  (Effect.events es).filter fun event => isOf event.environmentId

section Scans

variable {ι : Type} {l : Lookout ι} {p : Platform} {c : Contents} {s : Sender} {newId : String}

theorem Lookout.events_questions (silent : ∀ id, Effect.events [l.asked id] = []) (c : Contents)
    (e : Environment) : Effect.events (l.questions c e) = [] := by
  apply List.filterMap_eq_nil_iff.2
  intro effect asked
  rw [List.eq_of_mem_replicate asked]
  exact List.filterMap_eq_nil_iff.1 (silent e.id) _ List.mem_cons_self

/-- A scan whose visits come to what is looked for scans for it. -/
theorem scanEnvironments_scansFor {visit : Environment → Work (Except ScanError Unit)}
    (offers : p.Offers c) (keeps : s.KeepsToItself)
    (silent : ∀ id, Effect.events [l.asked id] = []) (asks : ∀ e : Environment, 0 < l.pages c e.id)
    (each : ∀ e, ComesTo s l.report (visit e) (l.questions c e) (l.finding c newId e)) :
    ScansFor l c s newId (scanEnvironments p visit) := by
  obtain ⟨result, quiet⟩ := offers.allEnvironments
  have visited {environments : List Environment} (told : c.environments = .ok environments) :
      (scanEnvironments p visit).acts = ((active environments).flatMap fun e =>
          l.questions c e ++ (l.finding c newId e).traces s) ∧
        (scanEnvironments p visit).result = (tallyOf ((active environments).filterMap fun e =>
          (l.finding c newId e).failure? s l.report)).result := by
    obtain ⟨acts, failures⟩ := visitAll_spec each (active environments) []
    rw [told] at result
    constructor
    · rw [← acts]
      simp [scanEnvironments, quiet, result, Except.map, tallyOf]
    · rw [← List.nil_append (List.filterMap _ _), ← failures]
      simp [scanEnvironments, result, Except.map, tallyOf]
  constructor
  case untold =>
    intro why told
    rw [told] at result
    constructor <;> simp [scanEnvironments, quiet, result, Except.map]
  case asks => exact asks
  case visits =>
    intro environments told
    exact (visited told).1
  case reports =>
    intro environments told
    rw [(visited told).1]
    exact events_visits keeps (l.events_questions silent c) (active environments)
  case ends =>
    intro environments told
    rw [(visited told).2]
    exact endsWith_tallyOf _

theorem scanFeatures_scansFor (offers : p.Offers c) (keeps : s.KeepsToItself) (newId : String)
    (now thresholdSeconds : Int) :
    ScansFor (unusedFeatures (age now) thresholdSeconds) c s newId
      (scanFeatures p s newId now thresholdSeconds) := by
  apply scanEnvironments_scansFor offers keeps (fun _ => rfl)
  · intro e
    obtain ⟨listed, finds, -⟩ := offers.features e.id
    exact finds.pages_pos
  · exact visitFeatures_comesTo offers s newId now thresholdSeconds

theorem scanExperiments_scansFor (offers : p.Offers c) (keeps : s.KeepsToItself) (newId : String) :
    ScansFor runningExperiments c s newId (scanExperiments p s newId) := by
  apply scanEnvironments_scansFor offers keeps (fun _ => rfl)
  · intro e
    exact (offers.experiments e.id).pages_pos
  · exact visitExperiments_comesTo offers s newId

/-- An event about an environment lists what is selected there. -/
theorem Lookout.event?_eq_some {e : Environment} {event : NotificationEvent} :
    (l.finding c newId e).event? = some event ↔
      ∃ items, l.held c e.id = .ok items ∧ items.filter l.isSelected ≠ [] ∧
        event = l.eventAbout newId e (items.filter l.isSelected) := by
  unfold finding
  cases l.held c e.id with
  | error why => simp [Finding.event?]
  | ok items =>
    simp only [Except.ok.injEq, exists_eq_left']
    cases items.filter l.isSelected with
    | nil => simp [Finding.event?]
    | cons first more => simp [Finding.event?, eq_comm]

/-- Where environments hold the same, the same is found. -/
theorem Lookout.finding_congr {c' : Contents} {e : Environment}
    (same : l.held c' e.id = l.held c e.id) : l.finding c' newId e = l.finding c newId e := by
  rw [finding, same, ← finding]

/-- What is found in an environment is told about that environment. -/
theorem Lookout.environmentId_of_event? {e : Environment} {event : NotificationEvent}
    (found : (l.finding c newId e).event? = some event) : event.environmentId = e.id := by
  obtain ⟨items, -, -, rfl⟩ := Lookout.event?_eq_some.1 found
  rfl

/-- What some environments hold decides all that is handed on about them. -/
theorem ScansFor.about_eq {c' : Contents} {s' : Sender} {scan scan' : Work (Except ScanFailure Unit)}
    (scans : ScansFor l c s newId scan) (scans' : ScansFor l c' s' newId scan')
    (told : c'.environments = c.environments) {isOf : String → Bool}
    (same : ∀ id, isOf id = true → l.held c' id = l.held c id) :
    about isOf scan'.acts = about isOf scan.acts := by
  unfold about
  cases here : c.environments with
  | error why =>
    rw [(scans.untold why here).1, (scans'.untold why (told.trans here)).1]
  | ok environments =>
    rw [scans.reports environments here, scans'.reports environments (told.trans here),
      List.filter_filterMap, List.filter_filterMap]
    congr 1
    funext e
    by_cases concerned : isOf e.id = true
    · rw [l.finding_congr (same e.id concerned)]
    · have other (contents : Contents) :
          ((l.finding contents newId e).event?).filter (fun event => isOf event.environmentId) =
            none := by
        rw [Option.filter_eq_none_iff]
        intro event found
        rw [l.environmentId_of_event? found]
        exact concerned
      rw [other, other]

/-- Events tell what was selected: if every event of one selection is one of another, then so is what
was selected in each environment that has an event. -/
theorem Lookout.filter_eq_of_events (isSelected : ι → Bool) (telling : Function.Injective l.body)
    {environments : List Environment}
    (handedOn : ∀ event ∈ environments.filterMap fun e => (l.finding c newId e).event?,
      event ∈ environments.filterMap fun e => ((l.selecting isSelected).finding c newId e).event?)
    {e : Environment} (member : e ∈ environments) {items : List ι}
    (held : l.held c e.id = .ok items) (chosen : items.filter l.isSelected ≠ []) :
    items.filter isSelected = items.filter l.isSelected := by
  have told : (l.finding c newId e).event? = some _ := Lookout.event?_eq_some.2 ⟨items, held, chosen, rfl⟩
  obtain ⟨e', -, found⟩ := List.mem_filterMap.1 (handedOn _ (List.mem_filterMap.2 ⟨e, member, told⟩))
  obtain ⟨items', held', -, same⟩ := Lookout.event?_eq_some.1 found
  -- the event names its environment, so it is about what is held there
  have sameId : e.id = e'.id := congrArg NotificationEvent.environmentId same
  have held'' : l.held c e.id = .ok items' := sameId ▸ held'
  obtain rfl : items = items' := Except.ok.inj (held.symm.trans held'')
  exact (telling (congrArg (·.notification.body) same)).symm

/-- A scan that is one for other things as well selects the same in each environment that it visits and
is told of. -/
theorem ScansFor.filter_eq_of_selecting {isSelected : ι → Bool}
    {scan : Work (Except ScanFailure Unit)} (scans : ScansFor l c s newId scan)
    (others : ScansFor (l.selecting isSelected) c s newId scan)
    (telling : Function.Injective l.body) {environments : List Environment}
    (told : c.environments = .ok environments) {e : Environment} (member : e ∈ active environments)
    {items : List ι} (held : l.held c e.id = .ok items) :
    items.filter isSelected = items.filter l.isSelected := by
  have same := (scans.reports environments told).symm.trans (others.reports environments told)
  by_cases none : items.filter l.isSelected = []
  · -- an environment without an event for one selection has none for the other
    by_contra different
    rw [none] at different
    have back := Lookout.filter_eq_of_events (l := l.selecting isSelected) l.isSelected telling
      (fun event given => same ▸ given) member held different
    exact different (back.symm.trans none)
  · exact Lookout.filter_eq_of_events isSelected telling (fun event given => same ▸ given) member held
      none

/-- Where the same is selected in the environments that are visited, the same is found. -/
theorem Lookout.finding_selecting {isSelected : ι → Bool} {e : Environment}
    (alike : ∀ items, l.held c e.id = .ok items → ∀ a ∈ items, isSelected a = l.isSelected a) :
    (l.selecting isSelected).finding c newId e = l.finding c newId e := by
  unfold finding
  cases held : l.held c e.id with
  | error why => simp [selecting, held]
  | ok items =>
    have chosen := List.filter_congr (alike items held)
    simp only [selecting, held, chosen]
    rfl

/-- A scan for some things is a scan for others if it finds the same in all environments that it
visits. -/
theorem ScansFor.selecting {isSelected : ι → Bool} {scan : Work (Except ScanFailure Unit)}
    (scans : ScansFor l c s newId scan)
    (same : ∀ environments, c.environments = .ok environments → ∀ e ∈ active environments,
      (l.selecting isSelected).finding c newId e = l.finding c newId e) :
    ScansFor (l.selecting isSelected) c s newId scan := by
  constructor
  case untold => exact scans.untold
  case asks => exact scans.asks
  case visits =>
    intro environments told
    rw [scans.visits environments told]
    exact List.flatMap_congr fun e member => by rw [same environments told e member]; rfl
  case reports =>
    intro environments told
    rw [scans.reports environments told]
    exact List.filterMap_congr fun e member => by rw [same environments told e member]
  case ends =>
    intro environments told
    have failures := List.filterMap_congr fun e member =>
      congrArg (Finding.failure? s l.report) (same environments told e member)
    show EndsWith ((active environments).filterMap fun e =>
      ((l.selecting isSelected).finding c newId e).failure? s l.report) scan.result
    rw [failures]
    exact scans.ends environments told

/-- A scan for some things is a scan for others just if these are the same things in all environments
that it visits and is told of. -/
theorem ScansFor.selecting_iff {scan : Work (Except ScanFailure Unit)}
    (scans : ScansFor l c s newId scan) (telling : Function.Injective l.body)
    (isSelected : ι → Bool) :
    ScansFor (l.selecting isSelected) c s newId scan ↔
      ∀ environments, c.environments = .ok environments → ∀ e ∈ active environments,
        ∀ items, l.held c e.id = .ok items → ∀ a ∈ items, isSelected a = l.isSelected a := by
  constructor
  · intro others environments told e member items held a ha
    have chosen := scans.filter_eq_of_selecting others telling told member held
    have alike : a ∈ items.filter isSelected ↔ a ∈ items.filter l.isSelected := by rw [chosen]
    rw [List.mem_filter, List.mem_filter, and_iff_right ha, and_iff_right ha] at alike
    exact Bool.eq_iff_iff.2 alike
  · intro alike
    apply scans.selecting
    intro environments told e member
    exact Lookout.finding_selecting (alike environments told e member)

end Scans

/-- Each of the two scans of the environments hands on one event about every environment that is not
archived, is told and has something selected, and no other event; and what it hands on about some of
the environments stays the same whatever others hold, whichever of them fail, and whatever can be
sent. The experiments that are selected are those that are running. The flags that are selected are
those that are unused, just if none of them is misjudged; and none is whose age fits 64 bits. -/
theorem environment_scans_report_each_alone_if_ages_fit {p : Platform} {c : Contents}
    (offers : p.Offers c) {s : Sender} (keeps : s.KeepsToItself) (newId : String)
    (now thresholdSeconds : Int) :
    ScansFor (unusedFeatures (age now) thresholdSeconds) c s newId
        (scanFeatures p s newId now thresholdSeconds) ∧
      (ScansFor (unusedFeatures (elapsed now) thresholdSeconds) c s newId
          (scanFeatures p s newId now thresholdSeconds) ↔
        ∀ environments, c.environments = .ok environments → ∀ e ∈ active environments,
          ∀ features, c.features e.id = .ok features →
            ∀ f ∈ features, ¬IsMisjudged now thresholdSeconds f) ∧
      (∀ f, IsMisjudged now thresholdSeconds f → ∃ used ∈ f.lastUsedAt, ¬Fits (elapsed now used)) ∧
      (0 ≤ now → now ≤ maxInt64 → 0 ≤ thresholdSeconds → thresholdSeconds ≤ maxInt64 →
        ∀ f, IsMisjudged now thresholdSeconds f ↔
          f.archived = false ∧ ¬(f.enabled = false ∧ f.offVariation = "") ∧
            ∃ used ∈ f.lastUsedAt, maxInt64 < elapsed now used) ∧
      ScansFor runningExperiments c s newId (scanExperiments p s newId) ∧
      ∀ (p' : Platform) (c' : Contents) (s' : Sender), p'.Offers c' → s'.KeepsToItself →
        c'.environments = c.environments → ∀ isOf : String → Bool,
        ((∀ id, isOf id = true → c'.features id = c.features id) →
          about isOf (scanFeatures p' s' newId now thresholdSeconds).acts =
            about isOf (scanFeatures p s newId now thresholdSeconds).acts) ∧
        ((∀ id, isOf id = true → c'.experiments id = c.experiments id) →
          about isOf (scanExperiments p' s' newId).acts =
            about isOf (scanExperiments p s newId).acts) := by
  have features := scanFeatures_scansFor offers keeps newId now thresholdSeconds
  have experiments := scanExperiments_scansFor offers keeps newId
  have telling : Function.Injective NotificationBody.featureStale :=
    fun _ _ same => NotificationBody.featureStale.inj same
  refine ⟨features, ?exact, fun f => IsMisjudged.not_fits, ?usual, experiments, ?alone⟩
  case exact =>
    refine (features.selecting_iff telling
      (fun f => IsUnused (elapsed now) thresholdSeconds f)).trans ?_
    have judged (f : Feature) : (decide (IsUnused (elapsed now) thresholdSeconds f) =
        (unusedFeatures (age now) thresholdSeconds).isSelected f) ↔
          ¬IsMisjudged now thresholdSeconds f := by
      simp only [unusedFeatures, IsMisjudged, not_not, decide_eq_decide]
      exact Iff.comm
    simp only [judged]
    rfl
  case usual =>
    intro early late least most f
    exact isMisjudged_iff early late least most
  case alone =>
    intro p' c' s' offers' keeps' told isOf
    constructor
    · intro same
      exact features.about_eq (scanFeatures_scansFor offers' keeps' newId now thresholdSeconds) told
        same
    · intro same
      exact experiments.about_eq (scanExperiments_scansFor offers' keeps' newId) told same

/-- Three environments that are not archived and one that is, each with a flag that was last used
a day and a second before the scans below. -/
def fourEnvironments : World where
  environments := [
    ("web", { id := "e1", name := "web", urlCode := "web", projectId := "p" }),
    ("old", { id := "e2", name := "old", urlCode := "old", projectId := "p", archived := true }),
    ("app", { id := "e3", name := "app", urlCode := "app", projectId := "p" }),
    ("api", { id := "e4", name := "api", urlCode := "api", projectId := "p" })]
  features := ["e1", "e2", "e3", "e4"].map fun id =>
    (id, { id := id ++ "-flag", name := "flag", enabled := true, lastUsedAt := some 1000 })

/-- The same environments, of which one does not tell its flags. -/
def oneUntold : World := { fourEnvironments with featureErrors := [("e1", .unavailable "away")] }

/-- A scan with which nothing is wrong. -/
def calmScan : Work (Except ScanFailure Unit) :=
  scanFeatures fourEnvironments.platform (Sender.failing [] 0) "event" 87401 86400

/-- A scan in which one environment is not told and the report of another cannot be sent. -/
def troubledScan : Work (Except ScanFailure Unit) :=
  scanFeatures oneUntold.platform (Sender.failing ["e4"] 0) "event" 87401 86400

/-- Flags that were used not long ago are judged by their age. Where two environments fail, the third
gets the same report as ever, and the scan ends with the second failure and the number of both. -/
theorem third_environment_is_reported :
    ScansFor (unusedFeatures (elapsed 87401) 86400) fourEnvironments.contents
        (Sender.failing [] 0) "event" calmScan ∧
      (Effect.events calmScan.acts).map (·.environmentId) = ["e1", "e3", "e4"] ∧
      about (· == "e3") troubledScan.acts = about (· == "e3") calmScan.acts ∧
      ∃ failure, troubledScan.result = .error failure ∧
        failure.message = ": ".intercalate ("2 environments failed" ::
          (ScanError.send .staleFeatures "e4"
            (.listSubscriptions (.unavailable "subscriptions of e4"))).chain) := by
  obtain ⟨scans, exact, misjudged, -, -, alone⟩ := environment_scans_report_each_alone_if_ages_fit
    (fourEnvironments.platform_offers (by decide)) (Sender.failing_keepsToItself [] 0) "event" 87401
    86400
  have offers := oneUntold.platform_offers (by decide)
  have keeps := Sender.failing_keepsToItself ["e4"] 0
  have troubledScans :=
    (environment_scans_report_each_alone_if_ages_fit offers keeps "event" 87401 86400).1
  refine ⟨?_, ?_, ?_, ?_⟩
  · apply exact.2
    intro environments _ e _ features told f member wrong
    obtain rfl := Except.ok.inj told
    obtain ⟨pair, own, rfl⟩ := List.mem_map.1 member
    have recent : pair.2.lastUsedAt = some 1000 := by
      obtain ⟨id, -, rfl⟩ := List.mem_map.1 (List.mem_filter.1 own).1
      rfl
    obtain ⟨used, last, unfit⟩ := misjudged _ wrong
    obtain rfl : 1000 = used := Option.some.inj (recent.symm.trans last)
    exact unfit (by decide)
  · rw [calmScan, scans.reports _ rfl]
    decide
  · apply (alone _ _ _ offers keeps rfl _).1
    intro id isThird
    obtain rfl : id = "e3" := by simpa using isThird
    rfl
  · have ends : EndsWith [.listFeatures "e1" (.unavailable "away"), .send .staleFeatures "e4"
        (.listSubscriptions (.unavailable "subscriptions of e4"))] troubledScan.result :=
      troubledScans.ends _ rfl
    obtain ⟨failure, last, ended, isLast, rfl, text⟩ := ends.several (by decide)
    have both : Text.decimal 2 ++ " environments failed" = "2 environments failed" := by
      decide +kernel
    rw [← Option.some.inj isLast] at text
    rw [← both]
    exact ⟨failure, ended, text⟩

/-- A flag that was last used at the first of all instants. -/
def forgotten : Feature :=
  { id := "flag", name := "flag", enabled := true, lastUsedAt := some Int64.minValue }

/-- One environment with this flag. -/
def oneForgotten : World where
  environments := [("web", { id := "e1", name := "web", urlCode := "web", projectId := "p" })]
  features := [("e1", forgotten)]

/-- The flag has not been used for longer than any threshold, and is not told all the same: 64 bits have
no room for its age. -/
theorem forgotten_flag_is_not_reported :
    let scan := scanFeatures oneForgotten.platform (Sender.failing [] 0) "event" 1700000000 7776000
    IsUnused (elapsed 1700000000) 7776000 forgotten ∧
      oneForgotten.contents.features "e1" = .ok [forgotten] ∧ Effect.events scan.acts = [] ∧
      ¬ScansFor (unusedFeatures (elapsed 1700000000) 7776000) oneForgotten.contents
        (Sender.failing [] 0) "event" scan := by
  intro scan
  have silent : Effect.events scan.acts = [] := by decide +kernel
  refine ⟨by decide +kernel, rfl, silent, ?_⟩
  intro scans
  have told := (scans.reports _ rfl).symm.trans silent
  revert told
  decide +kernel

end FlagAlerts.Watch
