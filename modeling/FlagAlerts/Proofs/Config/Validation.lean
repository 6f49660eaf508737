import FlagAlerts.Config.Validate

/-!
# What checked settings are like

The checks of the settings come one after another and the first that fails is reported. Settings pass
if none of them fails, which is said here of each setting on its own.
-/

namespace FlagAlerts

open FlagAlerts.Text FlagAlerts.Calendar

section Steps

variable {ε α β : Type}

/-- A step that is followed by another one succeeds if both do. -/
theorem bind_eq_ok {x : Except ε α} {f : α → Except ε β} {b : β} :
    x >>= f = .ok b ↔ ∃ a, x = .ok a ∧ f a = .ok b := by
  cases x <;> simp [bind, Except.bind]

/-- A check that is followed by another one passes if both do. -/
theorem check_bind_eq_ok {check : Except ε Unit} {rest : Except ε β} {b : β} :
    (check >>= fun _ => rest) = .ok b ↔ check = .ok () ∧ rest = .ok b := by
  rw [bind_eq_ok]
  constructor
  · rintro ⟨_, first, others⟩
    exact ⟨first, others⟩
  · rintro ⟨first, others⟩
    exact ⟨(), first, others⟩

/-- One check for each thing passes if all do. -/
theorem forM_eq_ok {as : List α} {check : α → Except ε Unit} :
    as.forM check = .ok () ↔ ∀ a ∈ as, check a = .ok () := by
  induction as with
  | nil => simp [List.forM, pure, Except.pure]
  | cons a rest ih =>
    show (check a >>= fun _ => rest.forM check) = .ok () ↔ _
    rw [check_bind_eq_ok, ih, List.forall_mem_cons]

/-- If a step can be done for each thing, then it can be done for all, one after another. -/
theorem exists_mapM {as : List α} {f : α → Except ε β} (each : ∀ a ∈ as, ∃ b, f a = .ok b) :
    ∃ bs, as.mapM f = .ok bs ∧ as.map f = bs.map .ok := by
  induction as with
  | nil => exact ⟨[], rfl, rfl⟩
  | cons a rest ih =>
    obtain ⟨first, others⟩ := List.forall_mem_cons.1 each
    obtain ⟨b, done⟩ := first
    obtain ⟨bs, all, same⟩ := ih others
    refine ⟨b :: bs, ?_, ?_⟩
    · rw [List.mapM_cons, done, all]
      rfl
    · rw [List.map_cons, done, same]
      rfl

end Steps

namespace Config

/-- What is so of settings that pass the checks. -/
structure IsValid (c : Config) : Prop where
  webUrl : (trim c.webUrl).isEmpty = false
  concurrency : c.puller.concurrency ≠ 0
  outstandingMessages : c.puller.maxOutstandingMessages ≠ 0
  outstandingBytes : c.puller.maxOutstandingBytes ≠ 0
  messageRate : c.puller.maxMessagesPerSecond ≠ 0
  runningTime : c.consumer.runningSeconds ≠ 0
  handleTimeout : c.consumer.handleTimeoutSeconds ≠ 0
  requestTimeout : c.slack.requestTimeoutSeconds ≠ 0
  scanTimeouts : ∀ scan ∈ c.scans, scan.2.timeoutSeconds ≠ 0
  staleThreshold : 0 < c.watchers.staleThresholdSeconds.toInt
  schedules : ∀ job ∈ c.jobSchedules, (Schedule.parse? job.2).isSome = true
  zone : ∃ z, Config.zone c.scheduler.timezone = .ok z
  usageZone : ∃ z, Config.zone c.watchers.mauReferenceTimezone = .ok z

theorem require_eq_ok {condition : Bool} {e : ConfigError} :
    require condition e = .ok () ↔ condition = true := by
  cases condition <;> simp [require]

theorem validatePuller_eq_ok {c : PullerConfig} :
    validatePuller c = .ok () ↔ c.concurrency ≠ 0 ∧
      (c.maxOutstandingMessages ≠ 0 ∧ c.maxOutstandingBytes ≠ 0) ∧ c.maxMessagesPerSecond ≠ 0 := by
  simp only [validatePuller, check_bind_eq_ok, require_eq_ok, Bool.and_eq_true, bne_iff_ne]

/-- Settings pass the checks just if each of them is as it should be. -/
theorem validate_eq_ok {c : Config} : c.validate = .ok () ↔ c.IsValid := by
  simp only [validate, check_bind_eq_ok, require_eq_ok, validatePuller_eq_ok, forM_eq_ok,
    bne_iff_ne, Bool.not_eq_true', decide_eq_true_eq]
  -- what is left are the time zones, which are looked for and not used
  simp only [bind_eq_ok]
  constructor
  · rintro ⟨webUrl, ⟨concurrency, ⟨messages, bytes⟩, rate⟩, running, handling, requesting, scans,
      stale, schedules, z, zone, z', usageZone, -⟩
    exact {
      webUrl := webUrl
      concurrency := concurrency
      outstandingMessages := messages
      outstandingBytes := bytes
      messageRate := rate
      runningTime := running
      handleTimeout := handling
      requestTimeout := requesting
      scanTimeouts := scans
      staleThreshold := stale
      schedules := schedules
      zone := ⟨z, zone⟩
      usageZone := ⟨z', usageZone⟩ }
  · intro valid
    obtain ⟨z, zone⟩ := valid.zone
    obtain ⟨z', usageZone⟩ := valid.usageZone
    exact ⟨valid.webUrl,
      ⟨valid.concurrency, ⟨valid.outstandingMessages, valid.outstandingBytes⟩, valid.messageRate⟩,
      valid.runningTime, valid.handleTimeout, valid.requestTimeout, valid.scanTimeouts,
      valid.staleThreshold, valid.schedules, z, zone, z', usageZone, rfl⟩

end Config

end FlagAlerts
