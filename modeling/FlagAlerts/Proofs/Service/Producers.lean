import FlagAlerts.Proofs.Consumer.Handling
import FlagAlerts.Proofs.Watch.Visits
import FlagAlerts.Watch.Watcher

/-!
# The events that are handed on for delivery

Events come from the consumer, which tells changes, and from the watchers, which send reports. Each
has the source type that its notification asks for and the environment of its notification, and
only a change is told across environments. Sending refuses an event of another source type before
anything else is done, and never one that comes from these producers.
-/

namespace FlagAlerts

/-- An event that fits its notification. -/
structure NotificationEvent.IsConsistent (event : NotificationEvent) : Prop where
  sourceType : event.notification.expectedSourceType? = some event.sourceType
  environment : event.notification.environmentId = event.environmentId
  admin : event.isAdminEvent = true → event.environmentId = "" ∧
    ∃ editor entityType entityId eventType entityData,
      event.notification.body = .domainEvent editor entityType entityId eventType entityData

/-- Whether an event that is handed on, if there is one, fits its notification. -/
def Effect.IsSound : Effect → Prop
  | .submitted event => event.IsConsistent
  | _ => True

/-- What the producers of events do, over any stores and with any sender: the consumer handles a
message, or a watcher scans, and may be cut off on the way. -/
inductive Produces (p : Platform) (s : Sender) : List Effect → Prop where
  | message (timeout : Nat) (newId : String) (m : BusMessage) :
    Produces p s (Handler.handle ⟨p, s, timeout, newId⟩ m).acts
  | scan {c : WatchersConfig} {newId : String} {watcher : Watcher} {job : WatchJob}
    (ready : watcher.job? c p s newId = .ok job) (now : Int) : Produces p s (job.scan now).acts
  | job {c : WatchersConfig} {newId : String} {watcher : Watcher} {job : WatchJob}
    (ready : watcher.job? c p s newId = .ok job) (cancel : Watch.Cancel) (now : Int) :
    Produces p s (job.run cancel now).acts
  | cutOff {es part : List Effect} (whole : Produces p s es) (first : part <+: es) :
    Produces p s part

/-! ## Sound work -/

/-- Whether work hands on no event but such as fit their notifications. -/
def IsSound {α : Type} (work : Work α) : Prop := ∀ e ∈ work.acts, e.IsSound

section Sound

variable {α β : Type} {p : Platform} {s : Sender} {event : NotificationEvent}

theorem Effect.isSound_of_isOfSending {e : Effect} (own : e.isOfSending = true) : e.IsSound := by
  cases e with
  | submitted => cases own
  | _ => trivial

theorem isSound_pure (a : α) : IsSound (pure a : Work α) := by
  intro e he
  cases he

theorem isSound_bind {work : Work α} {f : α → Work β} (first : IsSound work)
    (rest : IsSound (f work.result)) : IsSound (work >>= f) := by
  intro e he
  rw [Timed.acts_bind] at he
  rcases List.mem_append.1 he with he | he
  · exact first e he
  · exact rest e he

theorem isSound_of_prefix {work : Work α} {part : Work β} (sound : IsSound work)
    (first : part.acts <+: work.acts) : IsSound part := by
  intro e he
  exact sound e (first.subset he)

theorem isSound_within {work : Work α} (sound : IsSound work) (budget : Nat) :
    IsSound (work.within budget) :=
  isSound_of_prefix sound (Timed.acts_within work budget)

theorem isSound_until {work : Work α} (sound : IsSound work) (instant : Nat) :
    IsSound (work.until_ instant) :=
  isSound_of_prefix sound (Timed.acts_until work instant)

/-- Listing hands on nothing if asking for a page does not. -/
theorem isSound_collectAll {fetch : ListRequest → Work (Except StoreError (Page α))}
    (each : ∀ request, IsSound (fetch request)) (size limit : Nat) :
    IsSound (Page.collectAll size limit fetch) :=
  Page.acts_collectFrom each size limit ""

/-- An event that fits its notification may be handed on. -/
theorem isSound_submit (keeps : s.KeepsToItself) (fits : event.IsConsistent) :
    IsSound (Sender.submit s event) := by
  refine isSound_bind ?_ fun e he => Effect.isSound_of_isOfSending (keeps event e he)
  intro e he
  rw [Timed.acts_tell, List.mem_singleton] at he
  rw [he]
  exact fits

/-! ## The consumer -/

/-- A change is told with the source type of its entity, and with no environment if it is told
across environments. -/
theorem isConsistent_eventOf {newId : String} {change : DomainEvent}
    {environment : Option Environment} {sourceType : SourceType}
    (known : change.entityType.sourceType? = some sourceType)
    (across : change.isAdminEvent = true → environment = none) :
    (Handler.eventOf newId change environment sourceType).IsConsistent where
  sourceType := known
  environment := rfl
  admin := by
    intro admin
    obtain rfl := across admin
    exact ⟨rfl, _, _, _, _, _, rfl⟩

section Consumer

variable {h : Handler}

theorem isSound_handOn (keeps : h.sender.KeepsToItself) {change : DomainEvent}
    {environment : Option Environment} (across : change.isAdminEvent = true → environment = none)
    (timeLeft : Nat) : IsSound (h.handOn change environment timeLeft) := by
  unfold Handler.handOn
  split
  next => exact isSound_pure _
  next sourceType known =>
    apply isSound_bind
    · exact isSound_within (isSound_submit keeps (isConsistent_eventOf known across)) timeLeft
    · split <;> exact isSound_pure _

theorem isSound_tellChange (keeps : h.sender.KeepsToItself) (change : DomainEvent) :
    IsSound (h.tellChange change) := by
  unfold Handler.tellChange
  split
  next => exact isSound_handOn keeps (fun _ => rfl) h.timeout
  next ofEnvironment =>
    apply isSound_bind
    · intro e he
      obtain ⟨name, rfl | rfl⟩ := Handler.isLookup_lookUp_within _ _ _ e he <;> trivial
    · split
      next environment _ =>
        apply isSound_handOn keeps
        intro admin
        exact absurd admin ofEnvironment
      next => exact isSound_pure _
      next => exact isSound_pure _

theorem isSound_handle (keeps : h.sender.KeepsToItself) (m : BusMessage) :
    IsSound (h.handle m) := by
  refine isSound_bind ?_ (isSound_bind ?_ ?_)
  · simp [IsSound, Handler.takenOn, Effect.IsSound]
  · unfold Handler.process
    split
    next => exact isSound_pure _
    next =>
      split
      next change _ => exact isSound_tellChange keeps change
      next => exact isSound_pure _
  · simp [IsSound, Effect.IsSound]

end Consumer

/-! ## The watchers -/

/-- A report has the environment that it is about. -/
theorem isConsistent_eventFor {newId : String} {environment : Environment} {sourceType : SourceType}
    {body : NotificationBody}
    (asks : Notification.expectedSourceType? ⟨environment.id, environment.urlCode, body⟩ =
      some sourceType) :
    (Watch.eventFor newId environment sourceType body).IsConsistent where
  sourceType := asks
  environment := rfl
  admin := by
    intro admin
    cases admin

theorem isSound_report (keeps : s.KeepsToItself) (what : Report) (fits : event.IsConsistent) :
    IsSound (Watch.report s what event) :=
  isSound_bind (isSound_submit keeps fits) (isSound_pure _)

theorem isSound_visitFeatures (keeps : s.KeepsToItself) (newId : String) (now threshold : Int)
    (environment : Environment) :
    IsSound (Watch.visitFeatures p s newId now threshold environment) := by
  refine isSound_bind (isSound_collectAll ?_ _ _) ?_
  · simp [IsSound, Effect.IsSound]
  · split
    next => exact isSound_pure _
    next =>
      split
      next => exact isSound_pure _
      next => exact isSound_report keeps _ (isConsistent_eventFor rfl)

theorem isSound_visitExperiments (keeps : s.KeepsToItself) (newId : String)
    (environment : Environment) : IsSound (Watch.visitExperiments p s newId environment) := by
  refine isSound_bind (isSound_collectAll ?_ _ _) ?_
  · simp [IsSound, Effect.IsSound]
  · split
    next => exact isSound_pure _
    next => exact isSound_pure _
    next => exact isSound_report keeps _ (isConsistent_eventFor rfl)

theorem isSound_visitUsage (keeps : s.KeepsToItself) (newId : String) (month : Calendar.Month)
    (environment : Environment) : IsSound (Watch.visitUsage p s newId month environment) := by
  apply isSound_bind
  · simp [IsSound, Platform.usageOf, Effect.IsSound]
  · split
    next => exact isSound_pure _
    next => exact isSound_report keeps _ (isConsistent_eventFor rfl)

theorem isSound_visitAll {visit : α → Work (Except ScanError Unit)}
    (each : ∀ a, IsSound (visit a)) (as : List α) (failures : Failures) :
    IsSound (Watch.visitAll visit as failures) := by
  induction as generalizing failures with
  | nil => exact isSound_pure failures
  | cons a rest ih => exact isSound_bind (each a) (ih _)

theorem isSound_scanEnvironments {visit : Environment → Work (Except ScanError Unit)}
    (each : ∀ environment, IsSound (visit environment)) :
    IsSound (Watch.scanEnvironments p visit) := by
  refine isSound_bind (isSound_collectAll ?_ _ _) ?_
  · simp [IsSound]
  · split
    next => exact isSound_pure _
    next => exact isSound_bind (isSound_visitAll each _ _) (isSound_pure _)

theorem isSound_visitProjects (keeps : s.KeepsToItself) (newId : String) (month : Calendar.Month)
    (projects : List Project) (failures : Failures) :
    IsSound (Watch.visitProjects p s newId month projects failures) := by
  induction projects generalizing failures with
  | nil => exact isSound_pure failures
  | cons project rest ih =>
    refine isSound_bind (isSound_collectAll ?_ _ _) ?_
    · simp [IsSound]
    · split
      next => exact ih _
      next => exact isSound_bind (isSound_visitAll (isSound_visitUsage keeps newId month) _ _) (ih _)

theorem isSound_scanUsage (keeps : s.KeepsToItself) (newId : String) (z : Calendar.Zone)
    (now : Int) : IsSound (Watch.scanUsage p s newId z now) := by
  refine isSound_bind (isSound_collectAll ?_ _ _) ?_
  · simp [IsSound]
  · split
    next => exact isSound_pure _
    next => exact isSound_bind (isSound_visitProjects keeps newId _ _ _) (isSound_pure _)

/-- The scan of every watcher hands on reports only. -/
theorem isSound_scan (keeps : s.KeepsToItself) {c : WatchersConfig} {newId : String}
    {watcher : Watcher} {job : WatchJob} (ready : watcher.job? c p s newId = .ok job) (now : Int) :
    IsSound (job.scan now) := by
  cases watcher with
  | featureStale =>
    obtain rfl := Except.ok.inj ready
    exact isSound_scanEnvironments (isSound_visitFeatures keeps newId now _)
  | experimentRunning =>
    obtain rfl := Except.ok.inj ready
    exact isSound_scanEnvironments (isSound_visitExperiments keeps newId)
  | mauCount =>
    obtain ⟨z, -, rfl⟩ := Watcher.job?_mauCount_eq_ok.1 ready
    exact isSound_scanUsage keeps newId z now

/-- A limit of time and a cancellation only cut a scan off. -/
theorem isSound_run {job : WatchJob} {now : Int} (sound : IsSound (job.scan now))
    (cancel : Watch.Cancel) : IsSound (job.run cancel now) := by
  have timed : IsSound (Watch.bounded job.name job.timeoutSeconds .never (job.scan now)) := by
    refine isSound_bind (isSound_within sound _) ?_
    split <;> exact isSound_pure _
  cases cancel with
  | never => exact timed
  | atStart => exact isSound_pure _
  | after ms =>
    refine isSound_bind (isSound_until timed ms) ?_
    split <;> exact isSound_pure _

/-- Whatever the producers do, the events that they hand on fit their notifications. -/
theorem Produces.isSound {es : List Effect} (produces : Produces p s es)
    (keeps : s.KeepsToItself) : ∀ e ∈ es, e.IsSound := by
  induction produces with
  | message timeout newId m => exact isSound_handle (h := ⟨p, s, timeout, newId⟩) keeps m
  | scan ready now => exact isSound_scan keeps ready now
  | job ready cancel now => exact isSound_run (isSound_scan keeps ready now) cancel
  | cutOff _ first ih =>
    intro e he
    exact ih e (first.subset he)

theorem Effect.isConsistent_of_mem_events {es : List Effect} (sound : ∀ e ∈ es, e.IsSound)
    (handedOn : event ∈ Effect.events es) : event.IsConsistent := by
  obtain ⟨e, he, same⟩ := List.mem_filterMap.1 handedOn
  have own := sound e he
  cases e with
  | submitted other =>
    cases same
    exact own
  | _ => cases same

end Sound

/-! ## What is refused -/

namespace Sender

section Refused

variable {p : Platform} {notifiers : List Notifier} {event : NotificationEvent} {id kind : String}
  {sourceType : SourceType}

/-- Calls that fail leave errors of their own. -/
theorem lastError_ne_mismatch (as : List Attempt) :
    Attempt.lastError (.ok ()) as ≠ .error (.sourceTypeMismatch id sourceType kind) := by
  intro same
  unfold Attempt.lastError at same
  split at same
  next e last =>
    obtain ⟨attempt, -, error⟩ := List.mem_filterMap.1 (List.mem_of_getLast? last)
    rw [Attempt.error?] at error
    cases same
    split at error <;> cases error
  next => cases same

/-- Once the source type is the one that is asked for, no subscription leads to a refusal of it. -/
theorem deliverAll_ne_mismatch
    (expected : event.notification.expectedSourceType? = some event.sourceType)
    (subscriptions : List Subscription) :
    (deliverAll notifiers event subscriptions 0 (.ok ())).result ≠
      .error (.sourceTypeMismatch id sourceType kind) := by
  rw [(deliverAll_spec notifiers expected subscriptions 0 (.ok ())).1]
  split
  next => simp
  next => exact lastError_ne_mismatch _

theorem fanOut_ne_mismatch
    (expected : event.notification.expectedSourceType? = some event.sourceType) :
    (fanOut p notifiers event).result ≠ .error (.sourceTypeMismatch id sourceType kind) := by
  rw [fanOut, if_pos expected, Timed.result_bind]
  split
  next => simp
  next subscriptions _ => exact deliverAll_ne_mismatch expected subscriptions

/-- An event of another source type is counted and refused, and nothing else is done. -/
theorem send_of_mismatch
    (mismatch : event.notification.expectedSourceType? ≠ some event.sourceType) :
    (overNotifiers p notifiers event).result =
        .error (.sourceTypeMismatch event.id event.sourceType event.notification.kind) ∧
      (overNotifiers p notifiers event).acts =
        [.counted (.senderReceived event.notification.kind),
          .counted (.senderHandled event.notification.kind .fail)] := by
  have refused : fanOut p notifiers event = pure
      (.error (.sourceTypeMismatch event.id event.sourceType event.notification.kind)) := by
    rw [fanOut, if_neg mismatch]
  rw [overNotifiers, refused]
  exact ⟨rfl, rfl⟩

theorem result_overNotifiers (p : Platform) (notifiers : List Notifier)
    (event : NotificationEvent) :
    (overNotifiers p notifiers event).result = (fanOut p notifiers event).result := by
  simp [overNotifiers]

/-- When an event is refused for its source type: just if its notification asks for another one, and
then before anything is listed or delivered. No subscription that asks for tags meets a notification
that has no entity to read them from. -/
structure RefusesMismatch (p : Platform) (notifiers : List Notifier) (event : NotificationEvent) :
    Prop where
  refused : ∀ id sourceType kind,
    (overNotifiers p notifiers event).result = .error (.sourceTypeMismatch id sourceType kind) ↔
      event.notification.expectedSourceType? ≠ some event.sourceType ∧
        id = event.id ∧ sourceType = event.sourceType ∧ kind = event.notification.kind
  first : ∀ id sourceType kind,
    (overNotifiers p notifiers event).result = .error (.sourceTypeMismatch id sourceType kind) →
      (overNotifiers p notifiers event).acts =
        [.counted (.senderReceived event.notification.kind),
          .counted (.senderHandled event.notification.kind .fail)]
  decoded : event.notification.expectedSourceType? = some event.sourceType →
    ∀ s, asksForTags event s = true →
      ∀ id sourceType kind, tagsOf event ≠ .error (.sourceTypeMismatch id sourceType kind)

theorem refusesMismatch (p : Platform) (notifiers : List Notifier) (event : NotificationEvent) :
    RefusesMismatch p notifiers event where
  refused := by
    intro id sourceType kind
    by_cases expected : event.notification.expectedSourceType? = some event.sourceType
    · rw [result_overNotifiers]
      constructor
      · intro same
        exact absurd same (fanOut_ne_mismatch expected)
      · rintro ⟨mismatch, -⟩
        exact absurd expected mismatch
    · rw [(send_of_mismatch expected).1]
      constructor
      · rintro ⟨⟩
        exact ⟨expected, rfl, rfl, rfl⟩
      · rintro ⟨-, rfl, rfl, rfl⟩
        rfl
  first := by
    intro id sourceType kind same
    by_cases expected : event.notification.expectedSourceType? = some event.sourceType
    · rw [result_overNotifiers] at same
      exact absurd same (fanOut_ne_mismatch expected)
    · exact (send_of_mismatch expected).2
  decoded := by
    intro expected s asks id sourceType kind
    rw [asksForTags_eq] at asks
    rw [tagsOf_eq expected asks]
    cases snapshotTags event <;> simp [Except.mapError]

end Refused

end Sender

/-- The events that the consumer and the watchers hand on fit their notifications, over any stores
and with any sender, so that sending them through notifiers never refuses their source type. An
event of any origin is refused for its source type just if its notification asks for another one,
and then before anything is listed or delivered. -/
theorem handed_on_events_are_consistent (p : Platform) :
    (∀ s : Sender, s.KeepsToItself → ∀ es, Produces p s es →
      ∀ event ∈ Effect.events es, event.IsConsistent) ∧
    (∀ notifiers es, Produces p (Sender.overNotifiers p notifiers) es →
      ∀ event ∈ Effect.events es, ∀ id sourceType kind,
        (Sender.overNotifiers p notifiers event).result ≠
          .error (.sourceTypeMismatch id sourceType kind)) ∧
    ∀ notifiers event, Sender.RefusesMismatch p notifiers event := by
  have fits {s : Sender} (keeps : s.KeepsToItself) {es : List Effect} (produces : Produces p s es)
      {event : NotificationEvent} (handedOn : event ∈ Effect.events es) : event.IsConsistent :=
    Effect.isConsistent_of_mem_events (produces.isSound keeps) handedOn
  refine ⟨fun s keeps es produces event => fits keeps produces, ?_, Sender.refusesMismatch p⟩
  intro notifiers es produces event handedOn id sourceType kind
  have keeps := Sender.overNotifiers_keepsToItself p notifiers
  rw [Sender.result_overNotifiers]
  exact Sender.fanOut_ne_mismatch (fits keeps produces handedOn).sourceType

/-- A change that is announced across environments is handed on as such, and sent to three
channels. -/
theorem announcement_is_consistent :
    let s := Sender.overNotifiers Handler.threeChannels.platform [.failing "chat" [] [] 0]
    let es := (Handler.handle ⟨Handler.threeChannels.platform, s, 5000, "event"⟩
      (Consumer.announcement "change")).acts
    s.KeepsToItself ∧ Produces Handler.threeChannels.platform s es ∧
      (Effect.events es).map (fun event => (event.sourceType, event.isAdminEvent)) =
        [(.domainEvent .tag, true)] ∧
      ∀ event ∈ Effect.events es, event.IsConsistent ∧
        (s event).result ≠ .error (.sourceTypeMismatch "event" (.domainEvent .tag) "domain_event") := by
  intro s es
  have keeps : s.KeepsToItself := Sender.overNotifiers_keepsToItself _ _
  have produces : Produces Handler.threeChannels.platform s es := .message _ _ _
  obtain ⟨consistent, answered, -⟩ :=
    handed_on_events_are_consistent Handler.threeChannels.platform
  refine ⟨keeps, produces, by decide +kernel, fun event handedOn => ⟨?_, ?_⟩⟩
  · exact consistent s keeps es produces event handedOn
  · exact answered _ es produces event handedOn _ _ _

end FlagAlerts
