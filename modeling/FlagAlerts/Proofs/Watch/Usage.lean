import FlagAlerts.Proofs.Calendar.Month
import FlagAlerts.Proofs.Store.Contents
import FlagAlerts.Proofs.Watch.Visits
import FlagAlerts.Watch.MonthlyUsage

/-!
# The scan of the usage

The scan of the usage goes through the projects that are not disabled, and in each through the
environments that are not archived. It asks for the usage of each of them once, in the same month,
and hands on one event for every answer, whatever the counts. A project whose environments are not
told loses its own, and an environment whose usage is not told its own event, and nothing else.
-/

namespace FlagAlerts.Watch

open FlagAlerts.Calendar

/-! ## What is asked and told -/

/-- The projects that are not disabled. -/
def enabled (projects : List Project) : List Project :=
  projects.filter fun project => !project.disabled

/-- What the scan comes to in an environment: its usage is not told, or there is an event about the
environment with the counts, which may be zero, and the month. -/
def usageFinding (c : Contents) (newId : String) (month : Month) (e : Environment) : Finding :=
  match c.usage e.id month.key with
  | .error why => .refused (.getUsage e.id month.key why)
  | .ok count =>
    .found
      { id := newId
        environmentId := e.id
        sourceType := .mauCount
        notification := ⟨e.id, e.urlCode,
          .mauCount count (Int32.ofInt month.year) (UInt32.ofNat month.month)⟩
        isAdminEvent := false }

/-- The environments of a project that the scan gets to: none if they are not told. -/
def covered (c : Contents) (project : Project) : List Environment :=
  match c.environmentsOf project.id with
  | .error _ => []
  | .ok environments => active environments

/-- The failures of the scan in a project, in order. -/
def projectFailures (c : Contents) (s : Sender) (newId : String) (month : Month)
    (project : Project) : List ScanError :=
  match c.environmentsOf project.id with
  | .error why => [.listProjectEnvironments project.id why]
  | .ok environments =>
    (active environments).filterMap fun e => (usageFinding c newId month e).failure? s .monthlyUsage

/-- The questions of the scan in a project, in order. -/
def projectQuestions (c : Contents) (month : Month) (project : Project) : List (String × String) :=
  (covered c project).map fun e => (e.id, month.key)

/-- The events that the scan hands on in a project, in order. -/
def projectEvents (c : Contents) (newId : String) (month : Month) (project : Project) :
    List NotificationEvent :=
  (covered c project).filterMap fun e => (usageFinding c newId month e).event?

/-- A scan of the usage in a month: it ends at once if the projects are not told. Otherwise it asks
for the usage of every environment that it gets to, and hands on what it is told, both once, in the
order of the projects and then of the environments; its failures are those of the projects. -/
structure CoversUsage (c : Contents) (s : Sender) (newId : String) (month : Month)
    (scan : Work (Except ScanFailure Unit)) : Prop where
  untold : ∀ why, c.projects = .error why →
    scan.acts = [] ∧ scan.result = .error ⟨.listProjects why, 1⟩
  visits : ∀ projects, c.projects = .ok projects →
    scan.acts = (enabled projects).flatMap fun project => (covered c project).flatMap fun e =>
      .askedUsage e.id month.key :: (usageFinding c newId month e).traces s
  asks : ∀ projects, c.projects = .ok projects →
    Effect.usageRequests scan.acts = (enabled projects).flatMap (projectQuestions c month)
  reports : ∀ projects, c.projects = .ok projects →
    Effect.events scan.acts = (enabled projects).flatMap (projectEvents c newId month)
  ends : ∀ projects, c.projects = .ok projects →
    EndsWith ((enabled projects).flatMap (projectFailures c s newId month)) scan.result

/-! ## The scan -/

section Scan

variable {p : Platform} {c : Contents} {s : Sender} {newId : String} {month : Month}

theorem visitUsage_comesTo (offers : p.Offers c) (s : Sender) (newId : String) (month : Month)
    (e : Environment) :
    ComesTo s .monthlyUsage (visitUsage p s newId month e) [.askedUsage e.id month.key]
      (usageFinding c newId month e) := by
  obtain ⟨result, acts⟩ := offers.usageOf e.id month.key
  rw [← acts]
  apply ComesTo.after
  unfold usageFinding
  rw [result]
  cases c.usage e.id month.key with
  | error why => exact refused_comesTo s _ _
  | ok count => exact report_comesTo s _ _

/-- Going through projects does what their environments call for, in order, and the failures are
those of the projects. -/
theorem visitProjects_spec (offers : p.Offers c) (s : Sender) (newId : String) (month : Month)
    (projects : List Project) (earlier : List ScanError) :
    (visitProjects p s newId month projects (tallyOf earlier)).acts =
        (projects.flatMap fun project => (covered c project).flatMap fun e =>
          .askedUsage e.id month.key :: (usageFinding c newId month e).traces s) ∧
      (visitProjects p s newId month projects (tallyOf earlier)).result =
        tallyOf (earlier ++ projects.flatMap (projectFailures c s newId month)) := by
  induction projects generalizing earlier with
  | nil =>
    constructor
    · rfl
    · exact congrArg tallyOf (List.append_nil _).symm
  | cons project rest ih =>
    obtain ⟨listed, quiet⟩ := offers.environmentsOfProject project.id
    cases told : c.environmentsOf project.id with
    | error why =>
      rw [told] at listed
      have next : (tallyOf earlier).add (.error (.listProjectEnvironments project.id why)) =
          tallyOf (earlier ++ [.listProjectEnvironments project.id why]) := tallyOf_add _ _
      obtain ⟨acts, result⟩ := ih (earlier ++ [.listProjectEnvironments project.id why])
      constructor
      · simp only [visitProjects, Timed.acts_bind, listed, quiet, Except.map, next, acts, covered,
          told, List.flatMap_cons, List.flatMap_nil, List.nil_append]
      · simp only [visitProjects, Timed.result_bind, listed, Except.map, next, result,
          projectFailures, told, List.flatMap_cons, List.append_assoc]
    | ok environments =>
      rw [told] at listed
      obtain ⟨acts, failures⟩ := visitAll_spec (visitUsage_comesTo offers s newId month)
        (active environments) earlier
      obtain ⟨more, result⟩ := ih (earlier ++ (active environments).filterMap fun e =>
        (usageFinding c newId month e).failure? s .monthlyUsage)
      constructor
      · simp only [visitProjects, Timed.acts_bind, listed, quiet, Except.map, failures, acts, more,
          covered, told, List.flatMap_cons, List.nil_append, List.singleton_append]
      · simp only [visitProjects, Timed.result_bind, listed, Except.map, failures, result,
          projectFailures, told, List.flatMap_cons, List.append_assoc]

/-- In a project every environment that the scan gets to is asked about once. -/
theorem usageRequests_project (keeps : s.KeepsToItself) (c : Contents) (newId : String) (month : Month)
    (project : Project) :
    Effect.usageRequests ((covered c project).flatMap fun e =>
        .askedUsage e.id month.key :: (usageFinding c newId month e).traces s) =
      projectQuestions c month project := by
  have once (e : Environment) : Effect.usageRequests
      (.askedUsage e.id month.key :: (usageFinding c newId month e).traces s) =
        [(e.id, month.key)] := by
    change (e.id, month.key) :: Effect.usageRequests _ = _
    rw [Finding.usageRequests_traces keeps]
  rw [Effect.usageRequests_flatMap, projectQuestions, List.map_eq_flatMap]
  exact congrArg (List.flatMap · (covered c project)) (funext once)

/-- In a project every answer is told once. -/
theorem events_project (keeps : s.KeepsToItself) (c : Contents) (newId : String) (month : Month)
    (project : Project) :
    Effect.events ((covered c project).flatMap fun e =>
        .askedUsage e.id month.key :: (usageFinding c newId month e).traces s) =
      projectEvents c newId month project := by
  have silent (e : Environment) : Effect.events [.askedUsage e.id month.key] = [] := rfl
  exact events_visits keeps silent (covered c project)

/-- The scan of the usage covers it. -/
theorem scanUsage_coversUsage (offers : p.Offers c) (keeps : s.KeepsToItself) (newId : String)
    (z : Zone) (now : Int) :
    CoversUsage c s newId (.lastBefore z now) (scanUsage p s newId z now) := by
  obtain ⟨listed, quiet⟩ := offers.allProjects
  have visited {projects : List Project} (told : c.projects = .ok projects) :
      (scanUsage p s newId z now).acts = ((enabled projects).flatMap fun project =>
          (covered c project).flatMap fun e => .askedUsage e.id (Month.lastBefore z now).key ::
            (usageFinding c newId (.lastBefore z now) e).traces s) ∧
        (scanUsage p s newId z now).result =
          (tallyOf ((enabled projects).flatMap
            (projectFailures c s newId (.lastBefore z now)))).result := by
    obtain ⟨acts, failures⟩ :=
      visitProjects_spec offers s newId (.lastBefore z now) (enabled projects) []
    rw [told] at listed
    constructor
    · rw [← acts]
      simp [scanUsage, quiet, listed, enabled, tallyOf]
    · rw [← List.nil_append (List.flatMap _ _), ← failures]
      simp [scanUsage, listed, enabled, tallyOf]
  constructor
  case untold =>
    intro why told
    rw [told] at listed
    constructor <;> simp [scanUsage, quiet, listed]
  case visits =>
    intro projects told
    exact (visited told).1
  case asks =>
    intro projects told
    rw [(visited told).1, Effect.usageRequests_flatMap]
    exact congrArg (List.flatMap · (enabled projects))
      (funext (usageRequests_project keeps c newId (.lastBefore z now)))
  case reports =>
    intro projects told
    rw [(visited told).1, Effect.events_flatMap]
    exact congrArg (List.flatMap · (enabled projects))
      (funext (events_project keeps c newId (.lastBefore z now)))
  case ends =>
    intro projects told
    rw [(visited told).2]
    exact endsWith_tallyOf _

end Scan

/-! ## What fails is all that is lost -/

/-- Some projects do not tell their environments; all else is as before. -/
structure LosesProjects (failing : String → Bool) (c c' : Contents) : Prop where
  projects : c'.projects = c.projects
  usage : c'.usage = c.usage
  lost : ∀ id, failing id = true → ∃ why, c'.environmentsOf id = .error why
  kept : ∀ id, failing id = false → c'.environmentsOf id = c.environmentsOf id

/-- The usage of some environments in a month is not told; all else is as before. -/
structure LosesUsage (failing : String → Bool) (month : Month) (c c' : Contents) : Prop where
  projects : c'.projects = c.projects
  environmentsOf : c'.environmentsOf = c.environmentsOf
  lost : ∀ id, failing id = true → ∃ why, c'.usage id month.key = .error why
  kept : ∀ id, failing id = false → c'.usage id month.key = c.usage id month.key

section Losses

variable {c c' : Contents} {s s' : Sender} {newId : String} {month : Month}
  {failing : String → Bool} {scan scan' : Work (Except ScanFailure Unit)}

/-- Things that give nothing may be left out. -/
theorem flatMap_eq_flatMap_filter {α β : Type} {f g : α → List β} {isLost : α → Bool}
    (lost : ∀ a, isLost a = true → f a = []) (kept : ∀ a, isLost a = false → f a = g a)
    (as : List α) : as.flatMap f = (as.filter fun a => !isLost a).flatMap g := by
  induction as with
  | nil => rfl
  | cons a rest ih =>
    rw [List.flatMap_cons, ih]
    cases which : isLost a with
    | true => rw [lost a which, List.filter_cons_of_neg (by simp [which]), List.nil_append]
    | false => rw [kept a which, List.filter_cons_of_pos (by simp [which]), List.flatMap_cons]

theorem covered_of_lost (loses : LosesProjects failing c c') (project : Project)
    (fails : failing project.id = true) : covered c' project = [] := by
  obtain ⟨why, untold⟩ := loses.lost project.id fails
  rw [covered, untold]

theorem covered_of_kept (loses : LosesProjects failing c c') (project : Project)
    (works : failing project.id = false) : covered c' project = covered c project := by
  rw [covered, loses.kept project.id works, ← covered]

/-- A project that does not tell its environments loses those, and no other project loses any. -/
theorem CoversUsage.losesProjects (covers : CoversUsage c' s' newId month scan')
    (loses : LosesProjects failing c c') {projects : List Project}
    (told : c.projects = .ok projects) :
    Effect.usageRequests scan'.acts =
        ((enabled projects).filter fun project => !failing project.id).flatMap
          (projectQuestions c month) ∧
      Effect.events scan'.acts =
        ((enabled projects).filter fun project => !failing project.id).flatMap
          (projectEvents c newId month) := by
  have told' := loses.projects.trans told
  constructor
  · rw [covers.asks projects told']
    apply flatMap_eq_flatMap_filter
    · intro project fails
      rw [projectQuestions, covered_of_lost loses project fails, List.map_nil]
    · intro project works
      rw [projectQuestions, covered_of_kept loses project works, ← projectQuestions]
  · rw [covers.reports projects told']
    apply flatMap_eq_flatMap_filter
    · intro project fails
      rw [projectEvents, covered_of_lost loses project fails, List.filterMap_nil]
    · intro project works
      simp only [projectEvents, covered_of_kept loses project works, usageFinding, loses.usage]

/-- The event about an environment is lost with its usage, and stays as it is otherwise. -/
theorem event?_of_losesUsage (loses : LosesUsage failing month c c') (e : Environment) :
    (usageFinding c' newId month e).event? =
      ((usageFinding c newId month e).event?).filter fun event => !failing event.environmentId := by
  unfold usageFinding
  cases fails : failing e.id with
  | true =>
    obtain ⟨why, untold⟩ := loses.lost e.id fails
    rw [untold]
    cases c.usage e.id month.key with
    | error why => rfl
    | ok count => simp [Finding.event?, Option.filter_some, fails]
  | false =>
    rw [loses.kept e.id fails]
    cases c.usage e.id month.key with
    | error why => rfl
    | ok count => simp [Finding.event?, Option.filter_some, fails]

/-- An environment whose usage is not told is asked about all the same, and loses its own event. -/
theorem CoversUsage.losesUsage (covers : CoversUsage c s newId month scan)
    (covers' : CoversUsage c' s' newId month scan') (loses : LosesUsage failing month c c') :
    Effect.usageRequests scan'.acts = Effect.usageRequests scan.acts ∧
      Effect.events scan'.acts =
        (Effect.events scan.acts).filter fun event => !failing event.environmentId := by
  have same (project : Project) : covered c' project = covered c project := by
    rw [covered, loses.environmentsOf, ← covered]
  have questions : projectQuestions c' month = projectQuestions c month := by
    funext project
    rw [projectQuestions, same, ← projectQuestions]
  have events : projectEvents c' newId month = fun project =>
      (projectEvents c newId month project).filter fun event => !failing event.environmentId := by
    funext project
    simp only [projectEvents, same, List.filter_filterMap, event?_of_losesUsage loses]
  cases told : c.projects with
  | error why =>
    rw [(covers.untold why told).1, (covers'.untold why (loses.projects.trans told)).1]
    exact ⟨rfl, rfl⟩
  | ok projects =>
    have told' := loses.projects.trans told
    constructor
    · rw [covers.asks projects told, covers'.asks projects told', questions]
    · rw [covers.reports projects told, covers'.reports projects told', events,
        List.filter_flatMap]

end Losses

/-- The month is one of twelve, and the numbers with which an event tells it are its own. -/
structure IsTold (m : Month) : Prop where
  year : (Int32.ofInt m.year).toInt = m.year
  month : (UInt32.ofNat m.month).toNat = m.month
  least : 1 ≤ m.month
  most : m.month ≤ 12

/-- The month before is told as it is, up to years that are far beyond all dates. -/
theorem isTold_lastBefore (z : Zone) (now : Int) (early : -2 ^ 31 ≤ (Month.lastBefore z now).year)
    (late : (Month.lastBefore z now).year < 2 ^ 31) : IsTold (.lastBefore z now) := by
  obtain ⟨least, most⟩ := (Month.isValid_ofInstant z now).previous
  have fits : (Month.lastBefore z now).month < UInt32.size := Nat.lt_of_le_of_lt most (by decide)
  exact ⟨Int32.toInt_ofInt_of_le early late, UInt32.toNat_ofNat_of_lt' fits, least, most⟩

/-- The scan of the usage asks once for every environment that is not archived, of every project that
is not disabled and tells them, all in the month before, and hands on one event for every answer and
nothing else. Projects that do not tell their environments lose just those, and environments whose
usage is not told lose just their own events, whatever can be sent. Events tell the month as it is. -/
theorem usage_scan_covers_every_environment {p : Platform} {c : Contents} (offers : p.Offers c)
    {s : Sender} (keeps : s.KeepsToItself) (newId : String) (z : Zone) (now : Int) :
    CoversUsage c s newId (.lastBefore z now) (scanUsage p s newId z now) ∧
      (-2 ^ 31 ≤ (Month.lastBefore z now).year → (Month.lastBefore z now).year < 2 ^ 31 →
        IsTold (.lastBefore z now)) ∧
      ∀ (p' : Platform) (c' : Contents) (s' : Sender), p'.Offers c' → s'.KeepsToItself →
        ∀ failing : String → Bool,
        (LosesProjects failing c c' → ∀ projects, c.projects = .ok projects →
          Effect.usageRequests (scanUsage p' s' newId z now).acts =
              ((enabled projects).filter fun project => !failing project.id).flatMap
                (projectQuestions c (.lastBefore z now)) ∧
            Effect.events (scanUsage p' s' newId z now).acts =
              ((enabled projects).filter fun project => !failing project.id).flatMap
                (projectEvents c newId (.lastBefore z now))) ∧
        (LosesUsage failing (.lastBefore z now) c c' →
          Effect.usageRequests (scanUsage p' s' newId z now).acts =
              Effect.usageRequests (scanUsage p s newId z now).acts ∧
            Effect.events (scanUsage p' s' newId z now).acts =
              (Effect.events (scanUsage p s newId z now).acts).filter fun event =>
                !failing event.environmentId) := by
  have covers := scanUsage_coversUsage offers keeps newId z now
  refine ⟨covers, isTold_lastBefore z now, ?_⟩
  intro p' c' s' offers' keeps' failing
  have covers' := scanUsage_coversUsage offers' keeps' newId z now
  constructor
  · intro loses projects told
    exact covers'.losesProjects loses told
  · intro loses
    exact covers.losesUsage covers' loses

/-- Two projects with environments, between them one that is disabled; one environment is archived, and
only one has been used. -/
def threeProjects : World where
  environments := [
    ("web", { id := "e1", name := "web", urlCode := "web", projectId := "p1" }),
    ("old", { id := "e2", name := "old", urlCode := "old", projectId := "p1", archived := true }),
    ("lab", { id := "e3", name := "lab", urlCode := "lab", projectId := "p2" }),
    ("app", { id := "e4", name := "app", urlCode := "app", projectId := "p3" }),
    ("api", { id := "e5", name := "api", urlCode := "api", projectId := "p3" })]
  projects := [{ id := "p1", name := "one" }, { id := "p2", name := "two", disabled := true },
    { id := "p3", name := "three" }]
  usage := [(("e1", "202212"), ⟨1200, 34⟩)]

/-- The same, but the first project does not tell its environments. -/
def oneProjectLost : World :=
  { threeProjects with projectErrors := [("p1", .internal "boom")] }

/-- The same, but the usage of one environment is not told. -/
def oneUsageLost : World := { threeProjects with usageErrors := [("e4", .unavailable "away")] }

/-- The scan of a world at half past midnight of the first of January 2023 in a zone nine hours ahead
of Unix time. -/
def newYearScan (w : World) : Work (Except ScanFailure Unit) :=
  scanUsage w.platform (Sender.failing [] 0) "event" ⟨"Asia/Tokyo", 32400, []⟩ 1672500600

/-- A project that is lost takes its own environments along, and one usage that is lost takes along
one event and fails the scan. -/
theorem lost_project_and_lost_usage :
    Effect.usageRequests (newYearScan threeProjects).acts =
        [("e1", "202212"), ("e4", "202212"), ("e5", "202212")] ∧
      (Effect.events (newYearScan threeProjects).acts).map (·.notification.body) =
        [.mauCount ⟨1200, 34⟩ 2022 12, .mauCount ⟨0, 0⟩ 2022 12, .mauCount ⟨0, 0⟩ 2022 12] ∧
      Effect.usageRequests (newYearScan oneProjectLost).acts =
        [("e4", "202212"), ("e5", "202212")] ∧
      (Effect.events (newYearScan oneUsageLost).acts).map (·.environmentId) = ["e1", "e5"] ∧
      (newYearScan oneUsageLost).result ≠ .ok () ∧
      IsTold (.lastBefore ⟨"Asia/Tokyo", 32400, []⟩ 1672500600) := by
  have keeps := Sender.failing_keepsToItself [] 0
  have offers := threeProjects.platform_offers (by decide)
  have offersLost := oneProjectLost.platform_offers (by decide)
  have offersUsage := oneUsageLost.platform_offers (by decide)
  obtain ⟨covers, told, losing⟩ := usage_scan_covers_every_environment offers keeps "event"
    ⟨"Asia/Tokyo", 32400, []⟩ 1672500600
  have coversUsage := (usage_scan_covers_every_environment offersUsage keeps "event"
    ⟨"Asia/Tokyo", 32400, []⟩ 1672500600).1
  have lostProject : LosesProjects (· == "p1") threeProjects.contents oneProjectLost.contents := by
    refine ⟨rfl, rfl, ?_, ?_⟩
    · intro id isLost
      obtain rfl : id = "p1" := by simpa using isLost
      exact ⟨.internal "boom", rfl⟩
    · intro id isKept
      simp only [World.contents, oneProjectLost, List.lookup_cons, isKept]
      rfl
  have lostUsage : LosesUsage (· == "e4") (.lastBefore ⟨"Asia/Tokyo", 32400, []⟩ 1672500600)
      threeProjects.contents oneUsageLost.contents := by
    refine ⟨rfl, rfl, ?_, ?_⟩
    · intro id isLost
      obtain rfl : id = "e4" := by simpa using isLost
      exact ⟨.unavailable "away", rfl⟩
    · intro id isKept
      simp only [World.contents, World.usageOf, oneUsageLost, List.lookup_cons, isKept]
      rfl
  refine ⟨?_, ?_, ?_, ?_, ?_, ?_⟩
  · rw [newYearScan, covers.asks _ rfl]
    decide +kernel
  · rw [newYearScan, covers.reports _ rfl]
    decide +kernel
  · rw [newYearScan, ((losing _ _ _ offersLost keeps _).1 lostProject _ rfl).1]
    decide +kernel
  · rw [newYearScan, ((losing _ _ _ offersUsage keeps _).2 lostUsage).2, covers.reports _ rfl]
    decide +kernel
  · intro well
    have failed := ((coversUsage.ends _ rfl).well).1 well
    revert failed
    decide +kernel
  · apply told <;> decide +kernel

end FlagAlerts.Watch
