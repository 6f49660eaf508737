import FlagAlerts.Proofs.Watch.Environments
import FlagAlerts.Proofs.Watch.Usage
import FlagAlerts.Watch.Watcher

/-!
# Scans with bounds

The job of a watcher runs a scan with a budget of time and until it is cancelled. It does the first
part of what the scan does, at the same instants: nothing is done earlier, later, twice, or left out
in between. A run that reaches neither bound is the scan itself, and any other ends with the error of
the bound that it has reached. So a run only ends well if the scan has gone through every environment
and all has gone well there.
-/

namespace FlagAlerts

namespace Watch

open FlagAlerts.Calendar

variable {α : Type}

/-! ## The first part of a scan -/

/-- Whether a cancellation cuts off a scan with a budget of seconds: it has come before the start, or
it comes while there is waiting left. What would go on at that instant is cut off as well. -/
def Cancel.cutsOff (cancel : Cancel) (scan : Work α) (seconds : Nat) : Bool :=
  match cancel with
  | .never => false
  | .atStart => true
  | .after ms => scan.waits && decide (ms ≤ min scan.duration (seconds * 1000))

/-- A run of a scan that keeps to its bounds: it does the first part of what the scan does, is the
scan itself if it reaches no bound, and ends with the error of the bound that it reaches otherwise. -/
structure KeepsBounds (job : String) (seconds : Nat) (cancel : Cancel)
    (scan run : Work (Except ScanFailure Unit)) : Prop where
  part : ∀ start, run.actsFrom start <+: scan.actsFrom start
  events : Effect.events run.acts <+: Effect.events scan.acts
  whole : scan.duration ≤ seconds * 1000 → cancel.cutsOff scan seconds = false → run = scan
  late : seconds * 1000 < scan.duration → cancel.cutsOff scan seconds = false →
    run.result = .error ⟨.timedOut job seconds, 1⟩
  cancelled : cancel.cutsOff scan seconds = true → run.result = .error ⟨.cancelled job, 1⟩
  idle : cancel = .atStart → run.acts = []

section Bounded

variable {job : String} {seconds : Nat} {scan : Work (Except ScanFailure Unit)}

/-- A scan that has the time it needs is the same with a budget. -/
theorem bounded_never_of_inTime (inTime : scan.duration ≤ seconds * 1000) :
    bounded job seconds .never scan = scan :=
  (Timed.within_bind_of_duration_le inTime _).trans (Timed.bind_pure scan)

theorem result_bounded_never :
    (bounded job seconds .never scan).result =
      if scan.duration ≤ seconds * 1000 then scan.result else .error ⟨.timedOut job seconds, 1⟩ := by
  simp only [bounded, Timed.result_bind, Timed.result_within]
  by_cases inTime : scan.duration ≤ seconds * 1000
  · simp [inTime]
  · simp [inTime]

theorem duration_bounded_never :
    (bounded job seconds .never scan).duration = min scan.duration (seconds * 1000) := by
  simp only [bounded, Timed.duration_bind, Timed.duration_within]
  split <;> rfl

theorem waits_bounded_never : (bounded job seconds .never scan).waits = scan.waits := by
  simp only [bounded, Timed.waits_bind, Timed.waits_within]
  split <;> simp

/-- A scan goes on until it is out of time. -/
theorem actsWhile_bounded_never (mayReach : Nat → Bool) (start : Nat) :
    (bounded job seconds .never scan).actsWhile mayReach start = scan.actsWhile
      (fun instant => mayReach instant && decide (instant ≤ start + seconds * 1000)) start := by
  rw [← Timed.actsWhile_within]
  apply Timed.actsWhile_bind_of_still
  intro outcome
  cases outcome <;> rfl

/-- A scan goes on until it is cancelled. -/
theorem actsWhile_bounded_after (mayReach : Nat → Bool) (ms start : Nat) :
    (bounded job seconds (.after ms) scan).actsWhile mayReach start =
      (bounded job seconds .never scan).actsWhile
        (fun instant => mayReach instant && decide (instant < start + ms)) start := by
  rw [← Timed.actsWhile_until]
  apply Timed.actsWhile_bind_of_still
  intro outcome
  cases outcome <;> rfl

theorem result_bounded_after (ms : Nat) :
    (bounded job seconds (.after ms) scan).result =
      if (Cancel.after ms).cutsOff scan seconds = true then .error ⟨.cancelled job, 1⟩
      else (bounded job seconds .never scan).result := by
  have cuts : ((bounded job seconds .never scan).waits = true ∧
        ms ≤ (bounded job seconds .never scan).duration) ↔
      (Cancel.after ms).cutsOff scan seconds = true := by
    rw [waits_bounded_never, duration_bounded_never, Cancel.cutsOff, Bool.and_eq_true,
      decide_eq_true_iff]
  change (Timed.until_ ms (bounded job seconds .never scan) >>= _).result = _
  rw [Timed.result_bind, Timed.result_until]
  by_cases cut : (Cancel.after ms).cutsOff scan seconds = true
  · rw [if_pos (cuts.2 cut), if_pos cut]
    rfl
  · rw [if_neg (mt cuts.1 cut), if_neg cut]
    rfl

/-- A cancellation that cuts nothing off changes nothing. -/
theorem bounded_of_not_cutsOff {cancel : Cancel} (goesOn : cancel.cutsOff scan seconds = false) :
    bounded job seconds cancel scan = bounded job seconds .never scan := by
  cases cancel with
  | never => rfl
  | atStart => cases goesOn
  | after ms =>
    have brief : (bounded job seconds .never scan).waits = true →
        (bounded job seconds .never scan).duration < ms := by
      rw [waits_bounded_never, duration_bounded_never]
      intro waits
      rw [Cancel.cutsOff, waits, Bool.true_and, decide_eq_false_iff_not] at goesOn
      exact Nat.not_le.1 goesOn
    exact (Timed.until_bind_of_duration_lt brief _).trans (Timed.bind_pure _)

/-- A scan with bounds keeps to them. -/
theorem bounded_keepsBounds (job : String) (seconds : Nat) (cancel : Cancel)
    (scan : Work (Except ScanFailure Unit)) :
    KeepsBounds job seconds cancel scan (bounded job seconds cancel scan) := by
  have part (start : Nat) :
      (bounded job seconds cancel scan).actsFrom start <+: scan.actsFrom start := by
    cases cancel with
    | never =>
      rw [Timed.actsFrom_eq_actsWhile, actsWhile_bounded_never]
      exact Timed.actsWhile_isPrefix _ start scan
    | atStart => exact List.nil_prefix
    | after ms =>
      rw [Timed.actsFrom_eq_actsWhile, actsWhile_bounded_after, actsWhile_bounded_never]
      exact Timed.actsWhile_isPrefix _ start scan
  constructor
  case part => exact part
  case events =>
    have acts := (part 0).map Prod.snd
    rw [Timed.map_actsFrom, Timed.map_actsFrom] at acts
    exact acts.filterMap _
  case whole =>
    intro inTime goesOn
    rw [bounded_of_not_cutsOff goesOn, bounded_never_of_inTime inTime]
  case late =>
    intro late goesOn
    rw [bounded_of_not_cutsOff goesOn, result_bounded_never, if_neg (Nat.not_le.2 late)]
  case cancelled =>
    intro cut
    cases cancel with
    | never => cases cut
    | atStart => rfl
    | after ms => rw [result_bounded_after, if_pos cut]
  case idle =>
    rintro rfl
    rfl

end Bounded

/-! ## The environments of a watcher -/

/-- What is looked for in environments: what is asked about each, what there is to find, and how its
report is called. -/
structure Survey where
  report : Report
  asked : Environment → List Effect
  finding : Environment → Finding

/-- The survey of things that environments hold. -/
def Lookout.survey {ι : Type} (l : Lookout ι) (c : Contents) (newId : String) : Survey :=
  ⟨l.report, l.questions c, l.finding c newId⟩

/-- The survey of the usage in a month. -/
def usageSurvey (c : Contents) (newId : String) (month : Month) : Survey :=
  ⟨.monthlyUsage, fun e => [.askedUsage e.id month.key], usageFinding c newId month⟩

/-- Visits make a survey if each of them comes to what there is to find. -/
def Survey.IsMadeBy (survey : Survey) (s : Sender)
    (visit : Environment → Work (Except ScanError Unit)) : Prop :=
  ∀ e, ComesTo s survey.report (visit e) (survey.asked e) (survey.finding e)

/-- A scan that visits these environments, if it is told which: it does what the visits do, in the
order of the environments, and ends well just if all of that does. -/
structure GoesThrough (told : Except StoreError (List Environment))
    (visit : Environment → Work (Except ScanError Unit)) (scan : Work (Except ScanFailure Unit)) :
    Prop where
  acts : ∀ environments, told = .ok environments →
    scan.acts = environments.flatMap fun e => (visit e).acts
  well : scan.result = .ok () ↔
    ∃ environments, told = .ok environments ∧ ∀ e ∈ environments, (visit e).result = .ok ()

theorem failure?_eq_none_iff {result : Except ScanError Unit} :
    failure? result = none ↔ result = .ok () := by
  cases result <;> simp [failure?]

/-- Visits have no failures if each of them goes well. -/
theorem failures_eq_nil_iff {visit : α → Work (Except ScanError Unit)} {as : List α} :
    (as.filterMap fun a => failure? (visit a).result) = [] ↔
      ∀ a ∈ as, (visit a).result = .ok () := by
  simp [List.filterMap_eq_nil_iff, failure?_eq_none_iff]

/-- The environments of projects that are not archived, in the order of the projects, if the stores
tell those of every project. -/
def environmentsIn (c : Contents) : List Project → Except StoreError (List Environment)
  | [] => .ok []
  | project :: rest => do
    let environments ← c.environmentsOf project.id
    let more ← environmentsIn c rest
    return active environments ++ more

section Scans

variable {p : Platform} {contents : Contents} {s : Sender} {newId : String}

theorem scanEnvironments_goesThrough (offers : p.Offers contents)
    (visit : Environment → Work (Except ScanError Unit)) :
    GoesThrough (contents.environments.map active) visit (scanEnvironments p visit) := by
  obtain ⟨listed, quiet⟩ := offers.allEnvironments
  cases told : contents.environments.map active with
  | error why =>
    rw [told] at listed
    constructor
    case acts => simp
    case well => simp [scanEnvironments, listed]
  | ok environments =>
    rw [told] at listed
    obtain ⟨acts, failures⟩ := visitAll_runs visit environments []
    constructor
    case acts =>
      rintro _ ⟨⟩
      rw [← acts]
      simp [scanEnvironments, quiet, listed, tallyOf]
    case well =>
      have result : (scanEnvironments p visit).result =
          (tallyOf (environments.filterMap fun e => failure? (visit e).result)).result := by
        rw [← List.nil_append (List.filterMap _ _), ← failures]
        simp [scanEnvironments, listed, tallyOf]
      rw [result, (endsWith_tallyOf _).well, failures_eq_nil_iff]
      simp

/-- The environments of projects that tell them are those that are visited. -/
theorem flatMap_covered {projects : List Project} {environments : List Environment}
    (told : environmentsIn contents projects = .ok environments) :
    projects.flatMap (covered contents) = environments := by
  induction projects generalizing environments with
  | nil =>
    cases told
    rfl
  | cons project rest ih =>
    rw [environmentsIn] at told
    cases here : contents.environmentsOf project.id with
    | error why => simp [here, bind, Except.bind] at told
    | ok own =>
      cases later : environmentsIn contents rest with
      | error why => simp [here, later, bind, Except.bind] at told
      | ok more =>
        simp only [here, later, bind, Except.bind, pure, Except.pure, Except.ok.injEq] at told
        rw [← told, List.flatMap_cons, ih later, covered, here]

/-- Projects have no failures if all of them tell their environments and every visit goes well. -/
theorem projectFailures_eq_nil_iff (offers : p.Offers contents) {month : Month}
    (projects : List Project) :
    projects.flatMap (projectFailures contents s newId month) = [] ↔
      ∃ environments, environmentsIn contents projects = .ok environments ∧
        ∀ e ∈ environments, (visitUsage p s newId month e).result = .ok () := by
  induction projects with
  | nil => simp [environmentsIn]
  | cons project rest ih =>
    rw [List.flatMap_cons, List.append_eq_nil_iff, ih, environmentsIn, projectFailures]
    cases here : contents.environmentsOf project.id with
    | error why => simp [bind, Except.bind]
    | ok own =>
      have visits : (fun e => (usageFinding contents newId month e).failure? s .monthlyUsage) =
          fun e => failure? (visitUsage p s newId month e).result :=
        funext fun e => ((visitUsage_comesTo offers s newId month e).failure).symm
      simp only [visits, failures_eq_nil_iff]
      cases later : environmentsIn contents rest with
      | error why => simp [bind, Except.bind]
      | ok more =>
        simp only [bind, Except.bind, pure, Except.pure, Except.ok.injEq, exists_eq_left',
          List.mem_append, or_imp, forall_and]

theorem scanUsage_goesThrough (offers : p.Offers contents) (s : Sender) (newId : String) (z : Zone)
    (now : Int) :
    GoesThrough (contents.projects >>= fun projects => environmentsIn contents (enabled projects))
      (visitUsage p s newId (.lastBefore z now)) (scanUsage p s newId z now) := by
  obtain ⟨listed, quiet⟩ := offers.allProjects
  cases told : contents.projects with
  | error why =>
    rw [told] at listed
    change GoesThrough (.error why) _ _
    constructor
    case acts => simp
    case well => simp [scanUsage, listed]
  | ok projects =>
    rw [told] at listed
    obtain ⟨acts, failures⟩ :=
      visitProjects_spec offers s newId (.lastBefore z now) (enabled projects) []
    change GoesThrough (environmentsIn contents (enabled projects)) _ _
    constructor
    case acts =>
      intro environments told
      have visits : (fun e => (visitUsage p s newId (.lastBefore z now) e).acts) = fun e =>
          .askedUsage e.id (Month.lastBefore z now).key ::
            (usageFinding contents newId (.lastBefore z now) e).traces s :=
        funext fun e => (visitUsage_comesTo offers s newId (.lastBefore z now) e).acts
      rw [visits, ← flatMap_covered told, List.flatMap_assoc, ← acts]
      simp [scanUsage, quiet, listed, enabled, tallyOf]
    case well =>
      have result : (scanUsage p s newId z now).result = (tallyOf ((enabled projects).flatMap
          (projectFailures contents s newId (.lastBefore z now)))).result := by
        rw [← List.nil_append (List.flatMap _ _), ← failures]
        simp [scanUsage, listed, enabled, tallyOf]
      rw [result, (endsWith_tallyOf _).well, projectFailures_eq_nil_iff offers]

end Scans

end Watch

/-! ## The job of a watcher -/

namespace Watcher

open Watch

/-- The environments that a watcher goes through, if the stores tell all of them: those that are not
archived, and for the usage only those of projects that are not disabled. -/
def grounds (contents : Contents) : Watcher → Except StoreError (List Environment)
  | .featureStale | .experimentRunning => contents.environments.map active
  | .mauCount => contents.projects >>= fun projects => environmentsIn contents (enabled projects)

/-- What a watcher does in an environment, in a scan at an instant. -/
inductive Visits (c : WatchersConfig) (p : Platform) (s : Sender) (newId : String) (now : Int) :
    Watcher → (Environment → Work (Except ScanError Unit)) → Prop where
  | staleFeatures : Visits c p s newId now .featureStale
      (visitFeatures p s newId now c.staleThresholdSeconds.toInt)
  | runningExperiments : Visits c p s newId now .experimentRunning (visitExperiments p s newId)
  | usage {z : Calendar.Zone} (known : Config.zone c.mauReferenceTimezone = .ok z) :
      Visits c p s newId now .mauCount (visitUsage p s newId (.lastBefore z now))

/-- What a watcher looks for, told from the contents of the stores: the flags that are unused by ages
of 64 bits, the experiments that are running, or the usage in the last month of its time zone. -/
inductive Surveys (c : WatchersConfig) (contents : Contents) (newId : String) (now : Int) :
    Watcher → Survey → Prop where
  | staleFeatures : Surveys c contents newId now .featureStale
      ((unusedFeatures (age now) c.staleThresholdSeconds.toInt).survey contents newId)
  | runningExperiments : Surveys c contents newId now .experimentRunning
      (Watch.runningExperiments.survey contents newId)
  | usage {z : Calendar.Zone} (known : Config.zone c.mauReferenceTimezone = .ok z) :
      Surveys c contents newId now .mauCount (usageSurvey contents newId (.lastBefore z now))

variable {c : WatchersConfig} {p : Platform} {s : Sender} {newId : String} {watcher : Watcher}
  {job : WatchJob}

/-- The scan of a watcher goes through all its environments, and finds there what the watcher looks
for. -/
theorem scan_goesThrough (ready : watcher.job? c p s newId = .ok job) {contents : Contents}
    (offers : p.Offers contents) (now : Int) :
    ∃ visit survey, watcher.Visits c p s newId now visit ∧
      watcher.Surveys c contents newId now survey ∧ survey.IsMadeBy s visit ∧
      GoesThrough (watcher.grounds contents) visit (job.scan now) := by
  cases watcher with
  | featureStale =>
    obtain rfl := Except.ok.inj ready
    exact ⟨_, _, .staleFeatures, .staleFeatures, visitFeatures_comesTo offers s newId now _,
      scanEnvironments_goesThrough offers _⟩
  | experimentRunning =>
    obtain rfl := Except.ok.inj ready
    exact ⟨_, _, .runningExperiments, .runningExperiments, visitExperiments_comesTo offers s newId,
      scanEnvironments_goesThrough offers _⟩
  | mauCount =>
    obtain ⟨z, known, rfl⟩ := job?_mauCount_eq_ok.1 ready
    exact ⟨_, _, .usage known, .usage known, visitUsage_comesTo offers s newId _,
      scanUsage_goesThrough offers s newId z now⟩

/-- The job of a watcher keeps to its bounds: it does the first part of what its full scan does, at
the same instants, is the full scan if it reaches no bound, and ends with the error of the bound that
it reaches otherwise. A visit finds what the watcher looks for in an environment and tells that alone.
The job ends well only if the stores tell all environments of the watcher and every visit goes well,
and then all the visits are done. -/
theorem job_does_first_part_of_scan (ready : watcher.job? c p s newId = .ok job) (cancel : Cancel)
    (now : Int) :
    KeepsBounds job.name job.timeoutSeconds cancel (job.scan now) (job.run cancel now) ∧
      ∀ contents, p.Offers contents → ∃ visit survey, watcher.Visits c p s newId now visit ∧
        watcher.Surveys c contents newId now survey ∧ survey.IsMadeBy s visit ∧
        GoesThrough (watcher.grounds contents) visit (job.scan now) ∧
        ((job.run cancel now).result = .ok () →
          ∃ environments, watcher.grounds contents = .ok environments ∧
            (∀ e ∈ environments, (visit e).result = .ok ()) ∧
            (job.run cancel now).acts = environments.flatMap fun e => (visit e).acts) := by
  have keeps := bounded_keepsBounds job.name job.timeoutSeconds cancel (job.scan now)
  refine ⟨keeps, ?_⟩
  intro contents offers
  obtain ⟨visit, survey, visits, surveys, made, goesThrough⟩ := scan_goesThrough ready offers now
  refine ⟨visit, survey, visits, surveys, made, goesThrough, ?_⟩
  intro well
  -- an error of a bound is no good end, so no bound has been reached
  have goesOn : cancel.cutsOff (job.scan now) job.timeoutSeconds = false := by
    by_contra cut
    rw [Bool.not_eq_false] at cut
    rw [WatchJob.run, keeps.cancelled cut] at well
    cases well
  have inTime : (job.scan now).duration ≤ job.timeoutSeconds * 1000 := by
    by_contra late
    rw [WatchJob.run, keeps.late (Nat.not_le.1 late) goesOn] at well
    cases well
  have whole : job.run cancel now = job.scan now := keeps.whole inTime goesOn
  rw [whole] at well ⊢
  obtain ⟨environments, told, each⟩ := goesThrough.well.1 well
  exact ⟨environments, told, each, goesThrough.acts environments told⟩

/-- Settings with a second for the scan of feature flags. -/
def inHaste : WatchersConfig where
  featureStale := { schedule := "0 10 * * MON", timeoutSeconds := 1 }
  staleThresholdSeconds := 86400

/-- Scans three environments with a stale flag each, where a report takes 700 ms to be sent. -/
def hastyJob : WatchJob :=
  ⟨featureStaleJob, 1, fun now => scanFeatures fourEnvironments.platform (Sender.failing [] 700)
    "event" now inHaste.staleThresholdSeconds.toInt⟩

/-- The environments that a run of the scan tells of. -/
def toldOf (run : Work (Except ScanFailure Unit)) : List String :=
  (Effect.events run.acts).map (·.environmentId)

/-- Of three reports the first two are handed on within a second, and the first alone if the job is
cancelled when the second is about to be. The full scan visits the environments that hold them. -/
theorem hasty_scan_is_cut_off :
    toldOf (hastyJob.scan 87401) = ["e1", "e3", "e4"] ∧
      (toldOf (hastyJob.run .never 87401) = ["e1", "e3"] ∧
        (hastyJob.run .never 87401).result = .error ⟨.timedOut featureStaleJob 1, 1⟩) ∧
      (toldOf (hastyJob.run (.after 700) 87401) = ["e1"] ∧
        (hastyJob.run (.after 700) 87401).result = .error ⟨.cancelled featureStaleJob, 1⟩) ∧
      (hastyJob.run .atStart 87401).acts = [] ∧
      ∃ visit survey, Surveys inHaste fourEnvironments.contents "event" 87401 .featureStale survey ∧
        survey.IsMadeBy (Sender.failing [] 700) visit ∧
        (hastyJob.scan 87401).acts =
          (active (fourEnvironments.environments.map (·.2))).flatMap fun e => (visit e).acts := by
  have ready : Watcher.job? inHaste fourEnvironments.platform (Sender.failing [] 700) "event"
      .featureStale = .ok hastyJob := rfl
  obtain ⟨never, visited⟩ := job_does_first_part_of_scan ready .never 87401
  have after := (job_does_first_part_of_scan ready (.after 700) 87401).1
  have atStart := (job_does_first_part_of_scan ready .atStart 87401).1
  obtain ⟨visit, survey, -, surveys, made, goesThrough, -⟩ :=
    visited _ (fourEnvironments.platform_offers (by decide))
  refine ⟨by decide +kernel, ⟨by decide +kernel, ?_⟩, ⟨by decide +kernel, ?_⟩, atStart.idle rfl,
    visit, survey, surveys, made, goesThrough.acts _ rfl⟩
  · exact never.late (by decide +kernel) rfl
  · exact after.cancelled (by decide +kernel)

end Watcher

end FlagAlerts
