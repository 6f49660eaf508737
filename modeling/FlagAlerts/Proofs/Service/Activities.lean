import FlagAlerts.Proofs.Consumer.Sends
import FlagAlerts.Proofs.Consumer.Standing
import FlagAlerts.Proofs.Watch.Sends

/-!
# What activities count of their sends

An activity of the service handles a message or runs a scan, and may be cut off from outside at any
instant. Whatever activities have done while no send is in progress, the sends that were counted as
received are those that were counted as handled and those that were cut off, by a limit of time, a
cancellation or from outside.
-/

namespace FlagAlerts

/-- An activity that sends events: what it does, with the instants, and the instants that it may
reach. -/
structure Activity where
  sender : Sender
  acts : List (Nat × Effect)
  mayReach : Nat → Bool

namespace Activity

/-- A message that is handled from an instant on, and cut off some time later or never. It may take
as long as its deadline lets it. -/
def ofMessage (p : Platform) (notifiers : List Notifier) (timeout : Nat) (newId : String)
    (m : BusMessage) (start : Nat) (stop? : Option Nat) : Activity where
  sender := Sender.overNotifiers p notifiers
  acts := ((Handler.through p notifiers timeout newId).handle m).actsUntil stop? start
  mayReach instant := Timed.isBeforeStop stop? start instant && decide (instant ≤ start + timeout)

/-- Whether a job that starts at an instant and is cancelled some time goes on at an instant. -/
def isBeforeCancel (cancel : Watch.Cancel) (start instant : Nat) : Bool :=
  match cancel with
  | .never => true
  | .atStart => false
  | .after ms => instant < start + ms

/-- A scan that runs from an instant on, and is cut off some time later or never. It may take as
long as its job has time, up to its cancellation. -/
def ofScan (p : Platform) (notifiers : List Notifier) (job : WatchJob) (cancel : Watch.Cancel)
    (now : Int) (start : Nat) (stop? : Option Nat) : Activity where
  sender := Sender.overNotifiers p notifiers
  acts := (job.run cancel now).actsUntil stop? start
  mayReach instant := Timed.isBeforeStop stop? start instant &&
    isBeforeCancel cancel start instant && decide (instant ≤ start + job.timeoutSeconds * 1000)

/-- The activities of the service, over any stores and notifiers. -/
inductive OfService : Activity → Prop where
  /-- A message is taken on, but no clock can tell its deadline. -/
  | refused (sender : Sender) (start : Nat) :
      OfService ⟨sender, [(start, Handler.takenOn)], fun _ => true⟩
  | message (p : Platform) (notifiers : List Notifier) (timeout : Nat) (newId : String)
      (m : BusMessage) (start : Nat) (stop? : Option Nat) :
      OfService (ofMessage p notifiers timeout newId m start stop?)
  | scan {p : Platform} {notifiers : List Notifier} {c : WatchersConfig} {newId : String}
      {watcher : Watcher} {job : WatchJob}
      (ready : watcher.job? c p (Sender.overNotifiers p notifiers) newId = .ok job)
      (cancel : Watch.Cancel) (now : Int) (start : Nat) (stop? : Option Nat) :
      OfService (ofScan p notifiers job cancel now start stop?)

theorem orderly_ofMessage (p : Platform) (notifiers : List Notifier) (timeout : Nat)
    (newId : String) (m : BusMessage) (start : Nat) (stop? : Option Nat) :
    let activity := ofMessage p notifiers timeout newId m start stop?
    activity.sender.Orderly activity.mayReach activity.acts := by
  dsimp only [ofMessage]
  rw [Timed.actsUntil_eq_actsWhile]
  exact Sender.orderly_handle m fun _ => rfl

theorem orderly_ofScan {p : Platform} {notifiers : List Notifier} {c : WatchersConfig}
    {newId : String} {watcher : Watcher} {job : WatchJob}
    (ready : watcher.job? c p (Sender.overNotifiers p notifiers) newId = .ok job)
    (cancel : Watch.Cancel) (now : Int) (start : Nat) (stop? : Option Nat) :
    let activity := ofScan p notifiers job cancel now start stop?
    activity.sender.Orderly activity.mayReach activity.acts := by
  dsimp only [ofScan]
  rw [Timed.actsUntil_eq_actsWhile]
  unfold WatchJob.run Watch.bounded
  -- A limit of time and a cancellation are reasons not to go on; the job only adds its result.
  cases cancel with
  | atStart => exact Sender.orderly_pure _ _
  | never =>
    simp only [isBeforeCancel, Bool.and_true]
    rw [Timed.actsWhile_bind_of_still, Timed.actsWhile_within]
    · exact Sender.orderly_scan ready now start
    · intro result
      cases result <;> rfl
  | after ms =>
    simp only [isBeforeCancel]
    rw [Timed.actsWhile_bind_of_still, Timed.actsWhile_until, Timed.actsWhile_bind_of_still,
      Timed.actsWhile_within]
    · exact Sender.orderly_scan ready now start
    all_goals
      intro result
      cases result <;> rfl

/-- Whatever an activity of the service does is orderly. -/
theorem OfService.orderly {activity : Activity} (h : OfService activity) :
    activity.sender.Orderly activity.mayReach activity.acts := by
  cases h with
  | refused sender start =>
    exact Sender.orderly_of_quiet (by simp [Handler.takenOn, Effect.tellsSend])
  | message p notifiers timeout newId m start stop? =>
    exact orderly_ofMessage p notifiers timeout newId m start stop?
  | scan ready cancel now start stop? => exact orderly_ofScan ready cancel now start stop?

end Activity

/-! ## Runs of the consumer -/

namespace Consumer

/-- What a run has done is what activities of the service did one after another. -/
def IsTraced (run : ConsumerRun) : Prop :=
  ∃ activities : List Activity, (∀ activity ∈ activities, activity.OfService) ∧
    run.effects = activities.flatMap (·.acts)

section Traced

variable {p : Platform} {notifiers : List Notifier} {timeout : Nat} {newId : String}
  {c d : Consumer} {i : Nat} {run run' : ConsumerRun}

theorem IsTraced.add (traced : IsTraced run) {activity : Activity} (real : activity.OfService)
    (more : run'.effects = run.effects ++ activity.acts) : IsTraced run' := by
  obtain ⟨activities, all, same⟩ := traced
  refine ⟨activities ++ [activity], fun other h => ?_, by rw [more, same]; simp⟩
  rcases List.mem_append.1 h with old | new
  · exact all other old
  · exact List.mem_singleton.1 new ▸ real

/-- The handler stays the same, and all runs are traced. -/
def Traces (c d : Consumer) : Prop := d.handler = c.handler ∧ ∀ run ∈ d.runs, IsTraced run

/-- A run goes on, and is traced then. -/
theorem traces_of_set (traced : ∀ run ∈ c.runs, IsTraced run) (handler : d.handler = c.handler)
    (runs : d.runs = c.runs.set i run') (own : IsTraced run') : Traces c d := by
  refine ⟨handler, fun run member => ?_⟩
  rw [runs] at member
  rcases List.mem_or_eq_of_mem_set member with old | rfl
  · exact traced run old
  · exact own

theorem traces_of_poll (handler : c.handler = .through p notifiers timeout newId)
    (traced : ∀ run ∈ c.runs, IsTraced run) (h : c.poll? i = some d) : Traces c d := by
  obtain ⟨run, hrun, polled⟩ := poll_eq_some h
  have before := traced run (List.mem_of_getElem? hrun)
  cases polled with
  | left waits ends next =>
    subst next
    exact traces_of_set traced rfl rfl before
  | took waits goesOn received next =>
    subst next
    exact traces_of_set traced rfl rfl before
  | broke waits goesOn received next =>
    obtain ⟨s, -, -, -, -, rfl⟩ := cutOff_eq_some next
    refine traces_of_set traced rfl (List.set_set ..) ?_
    exact before.add (.refused c.handler.sender c.intake.now) rfl
  | @settled m start finish s handles held next =>
    subst next
    refine traces_of_set traced rfl rfl
      (before.add (.message p notifiers timeout newId m start none) ?_)
    rw [handler]
    rfl
  | finished leaves deserted next =>
    subst next
    exact traces_of_set traced rfl rfl before

theorem traces_of_abort (handler : c.handler = .through p notifiers timeout newId)
    (traced : ∀ run ∈ c.runs, IsTraced run) (h : c.abort? i = some d) : Traces c d := by
  obtain ⟨run, hrun, next⟩ := abort_cutOff h
  have before := traced run (List.mem_of_getElem? hrun)
  obtain ⟨s, -, -, -, -, rfl⟩ := cutOff_eq_some next
  refine traces_of_set traced rfl rfl ?_
  cases phase : run.phase with
  | handling m start finish =>
    refine before.add (.message p notifiers timeout newId m start (some (c.intake.now - start))) ?_
    simp only [doneInHand, phase, handler]
    rfl
  | _ =>
    obtain ⟨activities, all, same⟩ := before
    exact ⟨activities, all, by simpa [doneInHand, phase] using same⟩

theorem traces_of_step {a : Action} (handler : c.handler = .through p notifiers timeout newId)
    (traced : ∀ run ∈ c.runs, IsTraced run) (h : c.step? a = some d) : Traces c d := by
  cases a with
  | push attributes data | failPull =>
    cases h
    exact ⟨rfl, traced⟩
  | start =>
    cases h
    refine ⟨rfl, fun run member => ?_⟩
    rcases List.mem_append.1 member with old | new
    · exact traced run old
    · obtain rfl := List.mem_singleton.1 new
      exact ⟨[], by simp, rfl⟩
  | cancel r =>
    cases h
    refine ⟨rfl, fun run member => ?_⟩
    obtain ⟨j, hj⟩ := List.mem_iff_getElem?.1 member
    simp only [cancel, List.getElem?_modify] at hj
    obtain ⟨before, hbefore, rfl⟩ := Option.map_eq_some_iff.1 hj
    have own := traced before (List.mem_of_getElem? hbefore)
    split <;> exact own
  | abort r => exact traces_of_abort handler traced h
  | poll r => exact traces_of_poll handler traced h
  | work worker =>
    obtain ⟨t, -, rfl⟩ := Option.map_eq_some_iff.1 h
    exact ⟨rfl, traced⟩
  | pass ms =>
    obtain rfl := pass_eq_some h
    exact ⟨rfl, traced⟩

/-- What each run of a consumer has done is what activities of the service did. -/
theorem Reachable.traced {limits : Limits} {queue : BusQueue} {window : Nat}
    (h : Reachable (idle limits queue (.through p notifiers timeout newId) window) c) :
    ∀ run ∈ c.runs, IsTraced run := by
  suffices both : Traces (idle limits queue (.through p notifiers timeout newId) window) c
    from both.2
  induction h with
  | initial => exact ⟨rfl, by simp [idle]⟩
  | step a _ next ih =>
    obtain ⟨handler, traced⟩ := traces_of_step ih.1 ih.2 next
    exact ⟨handler.trans ih.1, traced⟩

end Traced

end Consumer

/-! ## All activities together -/

/-- An activity with what it has done so far. -/
structure Stage where
  activity : Activity
  seen : List (Nat × Effect)

namespace Stage

/-- The activity is one of the service, and no send of it is in progress. -/
structure IsIdle (stage : Stage) : Prop where
  real : stage.activity.OfService
  part : stage.seen <+: stage.activity.acts
  idle : stage.activity.sender.IsIdle stage.activity.mayReach stage.seen

/-- What was done so far. -/
def effects (stage : Stage) : List Effect := stage.seen.map (·.2)

/-- The events whose sends were begun and do not get to their end. -/
def cutOff (stage : Stage) : List NotificationEvent :=
  stage.activity.sender.cutOff stage.activity.mayReach stage.seen

end Stage

/-- What is counted of sends over all activities, if the sends of some events were cut off. -/
structure SendsAddUp (log : List Effect) (cutOff : List NotificationEvent) : Prop where
  balance : ∀ kind, Effect.times log (.senderReceived kind) =
    Effect.times log (.senderHandled kind .success) +
      Effect.times log (.senderHandled kind .fail) +
      cutOff.countP (·.notification.kind == kind)
  exact : (∀ kind, Effect.times log (.senderReceived kind) =
      Effect.times log (.senderHandled kind .success) +
        Effect.times log (.senderHandled kind .fail)) ↔
    cutOff = []

theorem SendsAddUp.of_balance {log : List Effect} {cutOff : List NotificationEvent}
    (balance : ∀ kind, Effect.times log (.senderReceived kind) =
      Effect.times log (.senderHandled kind .success) +
        Effect.times log (.senderHandled kind .fail) +
        cutOff.countP (·.notification.kind == kind)) : SendsAddUp log cutOff where
  balance := balance
  exact := by
    constructor
    · intro same
      cases cutOff with
      | nil => rfl
      | cons event rest =>
        have more := balance event.notification.kind
        rw [same event.notification.kind, List.countP_cons_of_pos (by simp)] at more
        omega
    · rintro rfl kind
      exact balance kind

/-- Counting does not depend on the order in which activities do things. -/
theorem Effect.times_perm {a b : List Effect} (h : a.Perm b) (metric : Metric) :
    times a metric = times b metric :=
  (h.filterMap _).count_eq metric

/-- What activities have done one after another adds up, while no send is in progress. -/
theorem Stage.balance_of_isIdle {stages : List Stage} (idle : ∀ stage ∈ stages, stage.IsIdle)
    (kind : String) :
    Effect.times (stages.flatMap (·.effects)) (.senderReceived kind) =
      Effect.times (stages.flatMap (·.effects)) (.senderHandled kind .success) +
        Effect.times (stages.flatMap (·.effects)) (.senderHandled kind .fail) +
        (stages.flatMap (·.cutOff)).countP (·.notification.kind == kind) := by
  induction stages with
  | nil => rfl
  | cons stage rest ih =>
    have later := ih fun other h => idle other (List.mem_cons_of_mem _ h)
    have here := idle stage List.mem_cons_self
    have own := here.real.orderly.addsUp stage.seen here.part here.idle kind
    simp only [List.flatMap_cons, Effect.times_append, List.countP_append]
    simp only [effects, cutOff] at later ⊢
    omega

/-- The sends of activities of which none is in progress add up, in whatever order things were done. -/
theorem SendsAddUp.of_isIdle {stages : List Stage} {log : List Effect}
    (idle : ∀ stage ∈ stages, stage.IsIdle) (interleaved : log.Perm (stages.flatMap (·.effects))) :
    SendsAddUp log (stages.flatMap (·.cutOff)) := by
  refine .of_balance fun kind => ?_
  simp only [Effect.times_perm interleaved]
  exact Stage.balance_of_isIdle idle kind

/-- An activity that has done all that it does has no send in progress. -/
theorem Activity.OfService.isIdle {activity : Activity} (real : activity.OfService) :
    (Stage.mk activity activity.acts).IsIdle where
  real := real
  part := List.prefix_rfl
  idle := real.orderly.idle

/-- A consumer keeps only what was done for messages that it no longer handles, so what a run of it
has done was done by activities of which none is in progress. -/
theorem Stage.exist_of_reachable {p : Platform} {notifiers : List Notifier} {timeout window : Nat}
    {newId : String} {limits : Limits} {queue : BusQueue} {c : Consumer}
    (reached : Consumer.Reachable
      (Consumer.idle limits queue (.through p notifiers timeout newId) window) c)
    {run : ConsumerRun} (member : run ∈ c.runs) :
    ∃ own : List Stage, (∀ stage ∈ own, stage.IsIdle) ∧
      run.effects.map (·.2) = own.flatMap (·.effects) := by
  obtain ⟨activities, real, same⟩ := reached.traced run member
  refine ⟨activities.map fun activity => ⟨activity, activity.acts⟩, ?_, ?_⟩
  · intro stage hstage
    obtain ⟨activity, own, rfl⟩ := List.mem_map.1 hstage
    exact (real activity own).isIdle
  · rw [same, List.map_flatMap, List.flatMap_map]
    rfl

/-- Whatever activities of the service have done, in any order, while no send is in progress, the
sends of every kind that were received are those that were handled and those that were cut off. So
they are all handled exactly if none was cut off. What the runs of a consumer have done is always of
this kind. -/
theorem received_eq_handled_add_cutOff {stages : List Stage} {log : List Effect}
    (idle : ∀ stage ∈ stages, stage.IsIdle) (interleaved : log.Perm (stages.flatMap (·.effects))) :
    SendsAddUp log (stages.flatMap (·.cutOff)) ∧
      ∀ (p : Platform) (notifiers : List Notifier) (timeout window : Nat) (newId : String)
        (limits : Limits) (queue : BusQueue) (c : Consumer),
        Consumer.Reachable
          (Consumer.idle limits queue (.through p notifiers timeout newId) window) c →
        ∀ run ∈ c.runs, ∃ own : List Stage, (∀ stage ∈ own, stage.IsIdle) ∧
          run.effects.map (·.2) = own.flatMap (·.effects) ∧
          SendsAddUp (run.effects.map (·.2)) (own.flatMap (·.cutOff)) := by
  refine ⟨.of_isIdle idle interleaved, ?_⟩
  intro p notifiers timeout window newId limits queue c reached run member
  obtain ⟨own, idle, done⟩ := Stage.exist_of_reachable reached member
  exact ⟨own, idle, done, .of_isIdle idle (.of_eq done)⟩

/-- The activity of a message whose event goes to three channels, with a notifier that takes three
seconds for each call. -/
def threeCalls (timeout : Nat) : Activity :=
  .ofMessage Handler.threeChannels.platform [.failing "chat" [] [] 3000] timeout "event"
    (Consumer.announcement "change") 0 none

/-- The activity has done all that it does. -/
def threeCallsDone (timeout : Nat) : Stage := ⟨threeCalls timeout, (threeCalls timeout).acts⟩

theorem isIdle_threeCallsDone (timeout : Nat) : (threeCallsDone timeout).IsIdle :=
  (Activity.OfService.message ..).isIdle

/-- A send that is cut off by the deadline of its message is received and not handled, though the
message is settled. -/
theorem cut_off_send_is_not_handled :
    let log := (threeCallsDone 5000).effects
    (threeCallsDone 5000).IsIdle ∧ Effect.settlements log = [⟨"change", true⟩] ∧
      Effect.times log (.senderReceived "domain_event") ≠
        Effect.times log (.senderHandled "domain_event" .success) +
          Effect.times log (.senderHandled "domain_event" .fail) := by
  refine ⟨isIdle_threeCallsDone 5000, by decide +kernel, by decide +kernel⟩

/-- Actions that are possible lead to a state that can be reached. -/
theorem Consumer.Reachable.follow {start c d : Consumer} {actions : List Action}
    (reached : Reachable start c) (followed : actions.foldlM step? c = some d) :
    Reachable start d := by
  induction actions generalizing c with
  | nil =>
    cases followed
    exact reached
  | cons a rest ih =>
    obtain ⟨next, stepped, followed⟩ := Option.bind_eq_some_iff.1 followed
    exact ih (reached.step a stepped) followed

/-- A consumer with one worker and the message whose event goes to three channels. -/
def consumerOfThreeCalls : Consumer :=
  .idle ⟨1, 1, 1000, 0⟩ { messages := [Consumer.announcement "change"], staysOpen := true }
    (Handler.slowHandler 5000) 50000

/-- It handles the message up to its deadline. -/
def handlesThreeCalls : List Consumer.Action :=
  [.start, .work 0, .work 0, .work 0, .work 0, .work 0, .poll 0, .pass 5000, .poll 0]

/-- Of two sends, one in five seconds and one in ten, one is cut off; and so is the one send of a run
of a consumer with a deadline of five seconds. -/
theorem one_of_two_sends_is_cut_off :
    let stages := [threeCallsDone 5000, threeCallsDone 10000]
    let log := (threeCallsDone 5000).effects ++ (threeCallsDone 10000).effects
    (∀ stage ∈ stages, stage.IsIdle) ∧ log.Perm (stages.flatMap (·.effects)) ∧
      (stages.flatMap (·.cutOff)).length = 1 ∧ SendsAddUp log (stages.flatMap (·.cutOff)) ∧
      ∃ c, Consumer.Reachable consumerOfThreeCalls c ∧ ∃ run ∈ c.runs, ∃ own : List Stage,
        (∀ stage ∈ own, stage.IsIdle) ∧
        Effect.times (own.flatMap (·.effects)) (.senderReceived "domain_event") = 1 ∧
        own.flatMap (·.cutOff) ≠ [] := by
  intro stages log
  have idle : ∀ stage ∈ stages, stage.IsIdle := by
    simp [stages, isIdle_threeCallsDone]
  have interleaved : log.Perm (stages.flatMap (·.effects)) := by simp [stages, log]
  obtain ⟨addUp, ofRuns⟩ := received_eq_handled_add_cutOff idle interleaved
  refine ⟨idle, interleaved, by decide +kernel, addUp, ?_⟩
  have outcome : (handlesThreeCalls.foldlM Consumer.step? consumerOfThreeCalls).bind (fun c =>
      c.runs[0]?.map fun run =>
        (Effect.times (run.effects.map (·.2)) (.senderReceived "domain_event"),
          Effect.times (run.effects.map (·.2)) (.senderHandled "domain_event" .success),
          Effect.times (run.effects.map (·.2)) (.senderHandled "domain_event" .fail))) =
        some (1, 0, 0) := by decide +kernel
  obtain ⟨c, followed, outcome⟩ := Option.bind_eq_some_iff.1 outcome
  obtain ⟨run, first, counts⟩ := Option.map_eq_some_iff.1 outcome
  simp only [Prod.mk.injEq] at counts
  obtain ⟨received, succeeded, failed⟩ := counts
  have reached : Consumer.Reachable consumerOfThreeCalls c := .follow .initial followed
  have member : run ∈ c.runs := List.mem_of_getElem? first
  obtain ⟨own, ownIdle, done, ownAddUp⟩ := ofRuns _ _ _ _ _ _ _ c reached run member
  refine ⟨c, reached, run, member, own, ownIdle, done ▸ received, ?_⟩
  intro none
  have same := ownAddUp.exact.2 none "domain_event"
  omega

end FlagAlerts
