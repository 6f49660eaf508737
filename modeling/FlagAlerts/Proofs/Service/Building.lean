import FlagAlerts.Proofs.Config.Validation
import FlagAlerts.Proofs.Scheduler.Lifecycle
import FlagAlerts.Proofs.Timed
import FlagAlerts.Service.Build
import FlagAlerts.Store.World

/-!
# Building from checked settings

Settings that pass the checks are nearly all that building the service needs: each part that is set
up accepts them, the jobs are added under their schedules and every one gets a loop. The one thing
that no check looks at is whether a gate can count as many messages as are allowed at a time. If it
cannot, or if a check fails, then building fails before anything is done.
-/

namespace FlagAlerts

open FlagAlerts.Calendar

namespace Setup

variable {α β ε : Type} {x : Setup α} {f : α → Setup β} {acts acts' : List SetupAct} {a : α}
  {e : BuildError} {end_ : Except BuildError β}

/-- What a part of building does, and how it ends. -/
structure Does (x : Setup α) (acts : List SetupAct) (result : Except BuildError α) : Prop where
  acts : x.run.acts = acts
  result : x.run.result = result

theorem does_pure (a : α) : Does (pure a) [] (.ok a) := ⟨rfl, rfl⟩

theorem does_tell (act : SetupAct) : Does (tell act) [act] (.ok ()) := ⟨rfl, rfl⟩

theorem does_given_ok {result : Except ε α} (success : result = .ok a) (e : ε → BuildError) :
    Does (given e result) [] (.ok a) := by
  rw [success]
  exact ⟨rfl, rfl⟩

theorem does_given_error {result : Except ε α} {why : ε} (failure : result = .error why)
    (e : ε → BuildError) : Does (given e result) [] (.error (e why)) := by
  rw [failure]
  exact ⟨rfl, rfl⟩

/-- A part that succeeds is followed by the next one. -/
theorem Does.bind (first : Does x acts (.ok a)) (rest : Does (f a) acts' end_) :
    Does (x >>= f) (acts ++ acts') end_ := by
  constructor
  · rw [ExceptT.run_bind, Timed.acts_bind, first.acts, first.result]
    exact congrArg (acts ++ ·) rest.acts
  · rw [ExceptT.run_bind, Timed.result_bind, first.result]
    exact rest.result

/-- A part that fails is the last one. -/
theorem Does.fails (first : Does x acts (.error e)) : Does (x >>= f) acts (.error e) := by
  constructor
  · rw [ExceptT.run_bind, Timed.acts_bind, first.acts, first.result]
    exact List.append_nil acts
  · rw [ExceptT.run_bind, Timed.result_bind, first.result]
    rfl

/-- A part that does nothing and succeeds leaves what comes after it. -/
theorem Does.then (first : Does x [] (.ok a)) (rest : Does (f a) acts' end_) :
    Does (x >>= f) acts' end_ :=
  first.bind rest

theorem bind_pure (x : Setup α) : x >>= pure = x := by
  have goesOn : ExceptT.bindCont (pure : α → Setup α) = pure := by
    funext result
    cases result <;> rfl
  show ExceptT.mk (x.run >>= ExceptT.bindCont pure) = x
  rw [goesOn]
  exact Timed.bind_pure x.run

/-- One thing is done for each of a list. -/
theorem does_forM (as : List α) (act : α → SetupAct) :
    Does (as.forM fun a => tell (act a)) (as.map act) (.ok ()) := by
  induction as with
  | nil => exact does_pure ()
  | cons a rest ih => exact (does_tell (act a)).bind ih

end Setup

/-! ## The parts -/

/-- The intake takes settings that pass the checks, unless more messages are allowed at a time than a
gate can count. -/
theorem Limits.ofConfig?_eq {c : PullerConfig} (concurrency : c.concurrency ≠ 0)
    (messages : c.maxOutstandingMessages ≠ 0) (rate : c.maxMessagesPerSecond ≠ 0) :
    ofConfig? c =
      if maxPermits < c.maxOutstandingMessages.toNat then .error .tooManyPermits
      else .ok {
        workers := c.concurrency.toNat
        messages := c.maxOutstandingMessages.toNat
        bytes := max (min c.maxOutstandingBytes.toNat maxUInt32) 1
        interval := 1000000000 / c.maxMessagesPerSecond.toNat } := by
  have positive : c.maxOutstandingMessages.toNat ≠ 0 := by
    intro zero
    exact messages (UInt64.toNat_inj.1 zero)
  have allowed : max c.maxOutstandingMessages.toNat 1 = c.maxOutstandingMessages.toNat := by omega
  rw [ofConfig?, if_neg concurrency, if_neg rate, allowed]
  by_cases many : c.maxOutstandingMessages.toNat > maxPermits
  · rw [if_pos many, if_pos many]
    rfl
  · rw [if_neg many, if_neg many]
    rfl

namespace Service

section Parts

variable {c : Config} {p : Platform} {s : Sender} {newId : String} {z : Zone}

/-- Every watcher gets its job once the time zone of the usage is known. -/
theorem exists_watchJobs (p : Platform) (s : Sender) (newId : String)
    (known : Config.zone c.watchers.mauReferenceTimezone = .ok z) :
    ∃ jobs, watchers.mapM (Watcher.job? c.watchers p s newId) = .ok jobs ∧
      watchers.map (Watcher.job? c.watchers p s newId) = jobs.map .ok := by
  apply exists_mapM
  intro watcher _
  cases watcher with
  | featureStale | experimentRunning => exact ⟨_, rfl⟩
  | mauCount => exact ⟨_, Watcher.job?_mauCount_eq_ok.2 ⟨z, known, rfl⟩⟩

/-- Jobs with names of their own and schedules that can be read are added one after another. -/
theorem does_addEach (scheduler : Scheduler) (idle : scheduler.stage = .idle)
    (jobs : List (String × String))
    (distinct : (scheduler.jobs.map (·.1) ++ jobs.map (·.1)).Nodup)
    (read : ∀ job ∈ jobs, (Schedule.parse? job.2).isSome = true) :
    ∃ added : List (String × Schedule),
      added.map (fun job => (job.1, some job.2)) =
        jobs.map (fun job => (job.1, Schedule.parse? job.2)) ∧
      (jobs.foldlM (fun s job => addJob s job.1 job.2) scheduler).Does
        (jobs.map fun job => .registered job.1 job.2)
        (.ok { scheduler with jobs := scheduler.jobs ++ added }) := by
  induction jobs generalizing scheduler with
  | nil =>
    refine ⟨[], rfl, ?_⟩
    rw [List.append_nil]
    exact Setup.does_pure scheduler
  | cons job rest ih =>
    obtain ⟨name, expression⟩ := job
    obtain ⟨first, others⟩ := List.forall_mem_cons.1 read
    obtain ⟨schedule, parsed⟩ := Option.isSome_iff_exists.1 first
    have unused : ¬ scheduler.jobs.any (·.1 == name) = true := by
      intro taken
      have earlier := (Scheduler.any_job _ _).1 taken
      exact (List.nodup_append.1 distinct).2.2 name earlier name List.mem_cons_self rfl
    have added : scheduler.add name expression =
        .ok { scheduler with jobs := scheduler.jobs ++ [(name, schedule)] } := by
      rw [Scheduler.add_of_idle idle, if_neg unused, parsed]
    have one : (addJob scheduler name expression).Does [.registered name expression]
        (.ok { scheduler with jobs := scheduler.jobs ++ [(name, schedule)] }) :=
      (Setup.does_given_ok added .scheduler).then
        ((Setup.does_tell (.registered name expression)).bind (Setup.does_pure _))
    obtain ⟨more, same, does⟩ := ih
      { scheduler with jobs := scheduler.jobs ++ [(name, schedule)] } idle (by simpa using distinct)
      others
    refine ⟨(name, schedule) :: more, ?_, ?_⟩
    · rw [List.map_cons, List.map_cons, same, parsed]
    · rw [List.append_assoc] at does
      exact one.bind does

/-- The jobs have names of their own. -/
theorem nodup_jobSchedules (c : Config) : (c.jobSchedules.map (·.1)).Nodup := by
  show [domainEventJob, featureStaleJob, experimentRunningJob, mauCountJob].Nodup
  decide

/-- The jobs that are added are those whose schedules are checked, in the same order. -/
theorem addJobs_eq (c : Config) (scheduler : Scheduler) :
    addJobs c scheduler =
      c.jobSchedules.foldlM (fun s job => addJob s job.1 job.2) scheduler := by
  simp only [addJobs, Config.jobSchedules, List.foldlM_cons, List.foldlM_nil, Setup.bind_pure]

/-- Every job that was added gets a loop. -/
theorem does_startLoops {scheduler : Scheduler} (idle : scheduler.stage = .idle) :
    (startLoops scheduler).Does (scheduler.jobs.map (.started ·.1)) (.ok scheduler.launched) := by
  have loops := Setup.does_forM scheduler.launched.loops fun l => .started l.job
  have whole := loops.bind (f := fun _ => pure scheduler.launched) (Setup.does_pure _)
  rw [List.append_nil, Scheduler.launched, List.map_map] at whole
  exact (Setup.does_given_ok (Scheduler.start_of_idle idle) .scheduler).then whole

/-- Where metrics can be asked for with these settings. -/
def endpointOf (c : MetricsConfig) (elsewhere : Bool) : Option SocketAddress :=
  if !elsewhere && c.opens then some c.listenAddress else none

theorem does_openEndpoint (c : MetricsConfig) (elsewhere : Bool) :
    (openEndpoint c elsewhere).Does ((endpointOf c elsewhere).toList.map .opened)
      (.ok (endpointOf c elsewhere)) := by
  rw [openEndpoint, endpointOf]
  split
  · exact (Setup.does_tell _).bind (Setup.does_pure _)
  · exact Setup.does_pure _

end Parts

/-! ## The whole -/

/-- What is done while the service is built from checked settings. -/
def actsOf (c : Config) (elsewhere : Bool) : List SetupAct :=
  c.jobSchedules.map (fun job => .registered job.1 job.2) ++
    (endpointOf c.metrics elsewhere).toList.map .opened ++ c.jobSchedules.map (.started ·.1)

/-- What a service is like that was built from settings: it runs, with a loop that has done nothing
yet for each of the jobs under its schedule, in the time zone of the settings, and with the scans, the
limits and the endpoint that they ask for. -/
structure Built (c : Config) (p : Platform) (s : Sender) (elsewhere : Bool) (newId : String)
    (service : Service) : Prop where
  running : service.scheduler.stage = .running
  waiting : service.scheduler.jobs = []
  loops : service.scheduler.loops.map (fun l => (l.job, some l.schedule)) =
    c.jobSchedules.map fun job => (job.1, Schedule.parse? job.2)
  fresh : ∀ l ∈ service.scheduler.loops, l.phase = .planning ∧ l.runs = [] ∧ l.fired = []
  zone : Config.zone c.scheduler.timezone = .ok service.scheduler.zone
  limits : Limits.ofConfig? c.puller = .ok service.consumer.intake.limits
  watchJobs : watchers.map (Watcher.job? c.watchers p s newId) = service.watchJobs.map .ok
  endpoint : service.endpoint = endpointOf c.metrics elsewhere

section Whole

variable {c : Config} {p : Platform} {notifiers : List Notifier} {elsewhere : Bool}
  {queue : BusQueue} {newId : String} {wall : Int}

/-- Settings that do not pass the checks end the building at once. -/
theorem build_of_refused {e : ConfigError} (refused : c.validate = .error e) :
    (build c p notifiers elsewhere queue newId wall).Does [] (.error (.config e)) :=
  (Setup.does_given_error refused .config).fails

/-- A limit that no gate can count ends the building before anything is done. -/
theorem build_of_uncountable (valid : c.IsValid)
    (many : Limits.maxPermits < c.puller.maxOutstandingMessages.toNat) :
    (build c p notifiers elsewhere queue newId wall).Does [] (.error (.intake .tooManyPermits)) := by
  have limits := Limits.ofConfig?_eq valid.concurrency valid.outstandingMessages valid.messageRate
  rw [if_pos many] at limits
  apply (Setup.does_given_ok (Config.validate_eq_ok.2 valid) .config).then
  exact (Setup.does_given_error limits .intake).fails

/-- Checked settings with a limit that can be counted make a service. -/
theorem build_of_valid (valid : c.IsValid)
    (fits : c.puller.maxOutstandingMessages.toNat ≤ Limits.maxPermits) :
    ∃ service, (build c p notifiers elsewhere queue newId wall).Does (actsOf c elsewhere)
        (.ok service) ∧
      Built c p (Sender.overNotifiers p notifiers) elsewhere newId service := by
  obtain ⟨z, zone⟩ := valid.zone
  obtain ⟨z', usageZone⟩ := valid.usageZone
  obtain ⟨watchJobs, ready, watched⟩ :=
    exists_watchJobs p (Sender.overNotifiers p notifiers) newId usageZone
  have limits := Limits.ofConfig?_eq valid.concurrency valid.outstandingMessages valid.messageRate
  rw [if_neg (Nat.not_lt.2 fits)] at limits
  let idle := Scheduler.new z (c.scheduler.stopGraceSeconds.toNat * 1000) wall
  obtain ⟨jobs, same, adds⟩ := does_addEach idle rfl c.jobSchedules (nodup_jobSchedules c)
    valid.schedules
  rw [← addJobs_eq] at adds
  have names : jobs.map (SetupAct.started ·.1) = c.jobSchedules.map (.started ·.1) := by
    have firsts := congrArg (List.map (SetupAct.started ·.1)) same
    rwa [List.map_map, List.map_map] at firsts
  have acts : actsOf c elsewhere =
      c.jobSchedules.map (fun job => .registered job.1 job.2) ++
        ((endpointOf c.metrics elsewhere).toList.map .opened ++
          (jobs.map (.started ·.1) ++ [])) := by
    rw [actsOf, names, List.append_nil, List.append_assoc]
  refine ⟨?service, ?done, ?built⟩
  case done =>
    rw [acts]
    apply (Setup.does_given_ok (Config.validate_eq_ok.2 valid) .config).then
    apply (Setup.does_given_ok limits .intake).then
    apply (Setup.does_given_ok ready .config).then
    apply (Setup.does_given_ok zone .config).then
    apply adds.bind
    apply (does_openEndpoint c.metrics elsewhere).bind
    apply (does_startLoops (by rfl)).bind
    exact Setup.does_pure _
  case built => exact {
    running := rfl
    waiting := rfl
    loops := by
      show (jobs.map _).map _ = _
      rw [List.map_map, ← same]
      rfl
    fresh := by
      intro l hl
      obtain ⟨job, -, rfl⟩ := List.mem_map.1 hl
      exact ⟨rfl, rfl, rfl⟩
    zone := zone
    limits := limits
    watchJobs := watched
    endpoint := rfl }

end Whole

/-- Building from any settings. If a check fails, its error is the answer and nothing is done. If all
checks pass and a gate can count as many messages as are allowed at a time, then building succeeds:
the four jobs are added under their schedules, in order, and each gets a loop. Checked settings that
allow more messages than that are not built, and nothing is done for them either. -/
theorem checked_settings_are_built_if_countable (c : Config) (p : Platform)
    (notifiers : List Notifier) (elsewhere : Bool) (queue : BusQueue) (newId : String) (wall : Int) :
    let setup := build c p notifiers elsewhere queue newId wall
    (∀ e, c.validate = .error e → setup.Does [] (.error (.config e))) ∧
    (c.validate = .ok () → c.puller.maxOutstandingMessages.toNat ≤ Limits.maxPermits →
      ∃ service, setup.Does (actsOf c elsewhere) (.ok service) ∧
        Built c p (Sender.overNotifiers p notifiers) elsewhere newId service) ∧
    (c.validate = .ok () → Limits.maxPermits < c.puller.maxOutstandingMessages.toNat →
      setup.Does [] (.error (.intake .tooManyPermits))) := by
  refine ⟨fun e refused => build_of_refused refused, ?_, ?_⟩
  · intro checked fits
    exact build_of_valid (Config.validate_eq_ok.1 checked) fits
  · intro checked many
    exact build_of_uncountable (Config.validate_eq_ok.1 checked) many

/-- The settings that hold without any others make a service with four jobs, and no service is made
without a web address. -/
theorem default_settings_are_built :
    let nowhere : Config := { webUrl := " " }
    ({} : Config).validate = .ok () ∧
      ({} : Config).puller.maxOutstandingMessages.toNat ≤ Limits.maxPermits ∧
      nowhere.validate = .error .noWebUrl ∧
      (∃ service, (build {} (World.platform {}) [] true {} "event" 0).Does
        [.registered domainEventJob "* * * * *", .registered featureStaleJob "0 10 * * MON",
          .registered experimentRunningJob "0 10 * * *", .registered mauCountJob "0 10 1 * *",
          .started domainEventJob, .started featureStaleJob, .started experimentRunningJob,
          .started mauCountJob] (.ok service) ∧ service.scheduler.stage = .running) ∧
      (build nowhere (World.platform {}) [] true {} "event" 0).Does []
        (.error (.config .noWebUrl)) := by
  intro nowhere
  have checked : ({} : Config).validate = .ok () := by decide +kernel
  have fits : ({} : Config).puller.maxOutstandingMessages.toNat ≤ Limits.maxPermits := by decide
  have refused : nowhere.validate = .error .noWebUrl := by decide +kernel
  obtain ⟨-, succeeds, -⟩ :=
    checked_settings_are_built_if_countable {} (World.platform {}) [] true {} "event" 0
  obtain ⟨fails, -⟩ :=
    checked_settings_are_built_if_countable nowhere (World.platform {}) [] true {} "event" 0
  obtain ⟨service, does, built⟩ := succeeds checked fits
  exact ⟨checked, fits, refused, ⟨service, does, built.running⟩, fails _ refused⟩

/-- Settings whose jobs have no time any more, and that allow one message more at a time than a gate
can count. -/
def boundless : Config where
  metrics := { enabled := false }
  puller := { maxOutstandingMessages := 2305843009213693952 }
  consumer := { schedule := "0 0 0 1 1 * 2020" }
  watchers := {
    featureStale := { schedule := "0 0 0 1 1 * 2020" }
    experimentRunning := { schedule := "0 0 0 1 1 * 2020" }
    mauCount := { schedule := "0 0 0 1 1 * 2020" } }

/-- They pass all checks, but no service is made of them. -/
theorem boundless_settings_are_not_built :
    boundless.validate = .ok () ∧
      (build boundless (World.platform {}) [] true {} "event" 0).run.result =
        .error (.intake .tooManyPermits) := by
  have checked : boundless.validate = .ok () := by decide +kernel
  have many : Limits.maxPermits < boundless.puller.maxOutstandingMessages.toNat := by decide
  exact ⟨checked, (build_of_uncountable (Config.validate_eq_ok.1 checked) many).result⟩

end Service

end FlagAlerts
