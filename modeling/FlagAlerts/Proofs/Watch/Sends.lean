import FlagAlerts.Proofs.Delivery.Tally
import FlagAlerts.Watch.Watcher

/-!
# The sends of a scan

A scan asks the stores and sends reports, one environment after another. Whatever the stores answer,
its sends are orderly.
-/

namespace FlagAlerts.Sender

section Scans

variable {p : Platform} {notifiers : List Notifier} {s : Sender} {mayReach : Nat → Bool}
  {α : Type}

/-- Listing is orderly if asking for a page tells of no send. -/
theorem orderly_collectAll {fetch : ListRequest → Work (Except StoreError (Page α))}
    (quiet : ∀ request, ∀ e ∈ (fetch request).acts, e.tellsSend = false) (size limit now : Nat) :
    s.Orderly mayReach ((Page.collectAll size limit fetch).actsWhile mayReach now) :=
  orderly_of_acts (Page.acts_collectFrom quiet size limit "") now

theorem orderly_report (what : Report) (event : NotificationEvent) (now : Nat) :
    (overNotifiers p notifiers).Orderly mayReach
      ((Watch.report (overNotifiers p notifiers) what event).actsWhile mayReach now) :=
  orderly_bind (orderly_submit p notifiers event mayReach now) (orderly_pure _ _)

/-- Visits that are orderly are so one after another. -/
theorem orderly_visitAll {visit : α → Work (Except ScanError Unit)}
    (each : ∀ a now, s.Orderly mayReach ((visit a).actsWhile mayReach now)) (as : List α)
    (failures : Failures) (now : Nat) :
    s.Orderly mayReach ((Watch.visitAll visit as failures).actsWhile mayReach now) := by
  induction as generalizing failures now with
  | nil => exact orderly_pure failures now
  | cons a rest ih => exact orderly_bind (each a now) (ih _ _)

theorem orderly_scanEnvironments {visit : Environment → Work (Except ScanError Unit)}
    (each : ∀ a now, s.Orderly mayReach ((visit a).actsWhile mayReach now)) (now : Nat) :
    s.Orderly mayReach ((Watch.scanEnvironments p visit).actsWhile mayReach now) := by
  refine orderly_bind (orderly_collectAll (by simp) _ _ now) ?_
  split
  · exact orderly_pure _ _
  · exact orderly_bind (orderly_visitAll each _ _ _) (orderly_pure _ _)

theorem orderly_visitFeatures (newId : String) (instant threshold : Int)
    (environment : Environment) (now : Nat) :
    (overNotifiers p notifiers).Orderly mayReach
      ((Watch.visitFeatures p (overNotifiers p notifiers) newId instant threshold
        environment).actsWhile mayReach now) := by
  refine orderly_bind (orderly_collectAll (by simp [Effect.tellsSend]) _ _ now) ?_
  split
  · exact orderly_pure _ _
  · split
    · exact orderly_pure _ _
    · exact orderly_report _ _ _

theorem orderly_visitExperiments (newId : String) (environment : Environment) (now : Nat) :
    (overNotifiers p notifiers).Orderly mayReach
      ((Watch.visitExperiments p (overNotifiers p notifiers) newId environment).actsWhile mayReach
        now) := by
  refine orderly_bind (orderly_collectAll (by simp [Effect.tellsSend]) _ _ now) ?_
  split
  · exact orderly_pure _ _
  · exact orderly_pure _ _
  · exact orderly_report _ _ _

theorem orderly_visitUsage (newId : String) (month : Calendar.Month) (environment : Environment)
    (now : Nat) :
    (overNotifiers p notifiers).Orderly mayReach
      ((Watch.visitUsage p (overNotifiers p notifiers) newId month environment).actsWhile mayReach
        now) := by
  refine orderly_bind (orderly_of_acts (by simp [Platform.usageOf, Effect.tellsSend]) now) ?_
  split
  · exact orderly_pure _ _
  · exact orderly_report _ _ _

theorem orderly_visitProjects (newId : String) (month : Calendar.Month) (projects : List Project)
    (failures : Failures) (now : Nat) :
    (overNotifiers p notifiers).Orderly mayReach
      ((Watch.visitProjects p (overNotifiers p notifiers) newId month projects failures).actsWhile
        mayReach now) := by
  induction projects generalizing failures now with
  | nil => exact orderly_pure failures now
  | cons project rest ih =>
    refine orderly_bind (orderly_collectAll (by simp) _ _ now) ?_
    split
    · exact ih _ _
    · exact orderly_bind (orderly_visitAll (orderly_visitUsage newId month) _ _ _) (ih _ _)

/-- The scan of every watcher is orderly. -/
theorem orderly_scan {c : WatchersConfig} {newId : String} {watcher : Watcher} {job : WatchJob}
    (ready : watcher.job? c p (overNotifiers p notifiers) newId = .ok job) (instant : Int)
    (now : Nat) :
    (overNotifiers p notifiers).Orderly mayReach ((job.scan instant).actsWhile mayReach now) := by
  cases watcher with
  | featureStale =>
    obtain rfl := Except.ok.inj ready
    exact orderly_scanEnvironments (orderly_visitFeatures newId instant _) now
  | experimentRunning =>
    obtain rfl := Except.ok.inj ready
    exact orderly_scanEnvironments (orderly_visitExperiments newId) now
  | mauCount =>
    obtain ⟨z, -, rfl⟩ := Watcher.job?_mauCount_eq_ok.1 ready
    refine orderly_bind (orderly_collectAll (by simp) _ _ now) ?_
    split
    · exact orderly_pure _ _
    · exact orderly_bind (orderly_visitProjects newId _ _ _ _) (orderly_pure _ _)

end Scans

end FlagAlerts.Sender
