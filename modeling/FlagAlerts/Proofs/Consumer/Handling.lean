import FlagAlerts.Consumer.Handle
import FlagAlerts.Proofs.Consumer.Outcome
import FlagAlerts.Proofs.Delivery.Calls

/-!
# What handling a message delivers

Handling a message that tells an event starts some of the calls that sending the event makes, from
the first on: all of them if it ends well, none if the message is of no use or is handed back. So a
message that is handed back has notified nobody, and handling it again repeats no call.
-/

namespace FlagAlerts.Handler

/-- The environment of a change, if it can be found; a change across environments has none. -/
def environmentOf? (h : Handler) (change : DomainEvent) : Option (Option Environment) :=
  if change.isAdminEvent then some none
  else (h.platform.lookup change.environmentNamespace).value.toOption.map some

/-- The event that a change leads to: one about its environment, unless there is no such environment
or nobody can listen to such changes. -/
def eventFor? (h : Handler) (change : DomainEvent) : Option NotificationEvent :=
  (h.environmentOf? change).bind fun environment =>
    change.entityType.sourceType?.map (eventOf h.newId change environment)

/-- The event that a message tells, however long it takes to find out. -/
def event? (h : Handler) (m : BusMessage) : Option NotificationEvent :=
  if (m.valueOf idAttribute).isEmpty then none
  else (DomainEvent.codec.read (Text.symbolsOfBytes m.data)).toOption.bind h.eventFor?

/-! ## Deciding about a message -/

/-- Whether nothing is done but to look up an environment. -/
def IsLookup (es : List Effect) : Prop := ∀ e ∈ es, ∃ name, e = .lookingUp name ∨ e = .lookedUp name

/-- How deciding about a message ends, and what is done for it: look-ups first, and then what
sending its event does, or a first part of that. -/
inductive Handles (h : Handler) : Option NotificationEvent → HandleCode → List Effect → Prop where
  /-- The message is of no use, now or for good. -/
  | drops {lookups : List Effect} (event? : Option NotificationEvent) (code : HandleCode)
    (quiet : IsLookup lookups) (useless : code = .badMessage ∨ code = .repeatable) :
    Handles h event? code lookups
  /-- The event is sent. -/
  | sends {lookups : List Effect} (event : NotificationEvent) (quiet : IsLookup lookups)
    (sent : (h.sender event).result = .ok ()) :
    Handles h (some event) .ok (lookups ++ (Sender.submit h.sender event).acts)
  /-- Sending the event fails or is cut off. -/
  | breaksOff {lookups part : List Effect} (event : NotificationEvent) (quiet : IsLookup lookups)
    (first : part <+: (Sender.submit h.sender event).acts) :
    Handles h (some event) .nonRepeatable (lookups ++ part)

section Deciding

variable {h : Handler} {event? : Option NotificationEvent} {code : HandleCode}
  {lookups es : List Effect}

theorem isLookup_nil : IsLookup [] := fun _ he => absurd he List.not_mem_nil

/-- Look-ups may come before. -/
theorem Handles.after (handles : Handles h event? code es) (quiet : IsLookup lookups) :
    Handles h event? code (lookups ++ es) := by
  have both {others : List Effect} (quiet' : IsLookup others) : IsLookup (lookups ++ others) :=
    fun e he => (List.mem_append.1 he).elim (quiet e) (quiet' e)
  cases handles with
  | drops event? code quiet' useless => exact .drops event? code (both quiet') useless
  | sends event quiet' sent =>
    rw [← List.append_assoc]
    exact .sends event (both quiet') sent
  | breaksOff event quiet' first =>
    rw [← List.append_assoc]
    exact .breaksOff event (both quiet') first

theorem handOn_handles (h : Handler) (change : DomainEvent) (environment : Option Environment)
    (timeLeft : Nat) :
    Handles h (change.entityType.sourceType?.map (eventOf h.newId change environment))
      (h.handOn change environment timeLeft).result
      (h.handOn change environment timeLeft).acts := by
  unfold handOn
  cases change.entityType.sourceType? with
  | none => exact .drops none .badMessage isLookup_nil (.inl rfl)
  | some sourceType =>
    simp only [Timed.result_bind, Timed.acts_bind, Option.map_some]
    generalize eventOf h.newId change environment sourceType = event
    split
    next sent =>
      obtain ⟨result, acts⟩ := Timed.of_within_eq_some sent
      have sent : (h.sender event).result = .ok () := by
        simpa [Sender.submit] using result
      rw [acts]
      simpa using Handles.sends event isLookup_nil sent
    next =>
      have part := Timed.acts_within (Sender.submit h.sender event) timeLeft
      simpa using Handles.breaksOff event isLookup_nil part

theorem isLookup_lookUp_within (p : Platform) (environmentNamespace : String) (budget : Nat) :
    IsLookup ((p.lookUp environmentNamespace).within budget).acts := by
  intro e he
  have whole := (Timed.acts_within (p.lookUp environmentNamespace) budget).subset he
  refine ⟨environmentNamespace, ?_⟩
  simpa [Platform.lookUp] using whole

theorem tellChange_handles (h : Handler) (change : DomainEvent) :
    Handles h (h.eventFor? change) (h.tellChange change).result (h.tellChange change).acts := by
  unfold tellChange eventFor? environmentOf?
  cases change.isAdminEvent with
  | true => exact h.handOn_handles change none h.timeout
  | false =>
    have quiet := isLookup_lookUp_within h.platform change.environmentNamespace h.timeout
    simp only [Bool.false_eq_true, if_false, Timed.result_bind, Timed.acts_bind]
    refine Handles.after ?_ quiet
    split
    next environment found =>
      obtain ⟨result, -⟩ := Timed.of_within_eq_some found
      have answer : (h.platform.lookup change.environmentNamespace).value = .ok environment := by
        simpa [Platform.lookUp] using result
      rw [answer]
      exact h.handOn_handles change (some environment) _
    next e failed =>
      refine .drops _ _ isLookup_nil ?_
      cases e.isNotFound
      · exact .inr rfl
      · exact .inl rfl
    next => exact .drops _ .repeatable isLookup_nil (.inr rfl)

/-- Deciding about a message ends in one of these ways. -/
theorem process_handles (h : Handler) (m : BusMessage) :
    Handles h (h.event? m) (h.process m).result (h.process m).acts := by
  unfold process event?
  split
  next => exact .drops none .badMessage isLookup_nil (.inl rfl)
  next =>
    cases DomainEvent.codec.read (Text.symbolsOfBytes m.data) with
    | error fault => exact .drops none .badMessage isLookup_nil (.inl rfl)
    | ok change => exact h.tellChange_handles change

end Deciding

/-! ## Calls -/

/-- The calls that handling a message starts. -/
def startedCalls (h : Handler) (m : BusMessage) : List NotifierCall := Effect.calls (h.handle m).acts

/-- The calls that sending the event of a message makes, without a limit of time. -/
def unboundedCalls (h : Handler) (m : BusMessage) : List NotifierCall :=
  (h.event? m).elim [] fun event => Effect.calls (h.sender event).acts

section Calls

variable {h : Handler} {m : BusMessage}

theorem result_handle (h : Handler) (m : BusMessage) :
    (h.handle m).result = (h.process m).result := by
  simp [handle]

theorem startedCalls_eq (h : Handler) (m : BusMessage) :
    h.startedCalls m = Effect.calls (h.process m).acts := by
  simp [startedCalls, handle, takenOn]

theorem calls_of_isLookup {lookups : List Effect} (quiet : IsLookup lookups) :
    Effect.calls lookups = [] := by
  apply Effect.calls_eq_nil
  intro e he call same
  obtain ⟨name, asks | answers⟩ := quiet e he
  · cases same.symm.trans asks
  · cases same.symm.trans answers

theorem calls_submit (sender : Sender) (event : NotificationEvent) :
    Effect.calls (Sender.submit sender event).acts = Effect.calls (sender event).acts := by
  simp [Sender.submit]

/-- The calls that are started are the first of those that sending the event makes. -/
theorem startedCalls_prefix (h : Handler) (m : BusMessage) :
    h.startedCalls m <+: h.unboundedCalls m := by
  have handles := h.process_handles m
  rw [startedCalls_eq, unboundedCalls]
  generalize (h.process m).acts = es, (h.process m).result = code, h.event? m = event? at handles ⊢
  cases handles with
  | drops event? code quiet useless =>
    rw [calls_of_isLookup quiet]
    exact List.nil_prefix
  | sends event quiet sent =>
    rw [Effect.calls_append, calls_of_isLookup quiet, calls_submit]
    exact List.prefix_rfl
  | breaksOff event quiet first =>
    have part := Effect.calls_prefix first
    rw [calls_submit] at part
    rw [Effect.calls_append, calls_of_isLookup quiet]
    exact part

/-- A message that is handled well tells an event, which was sent without a failure. -/
theorem sent_of_ok (ok : (h.handle m).result = .ok) :
    ∃ event, h.event? m = some event ∧ (h.sender event).result = .ok () ∧
      h.startedCalls m = Effect.calls (h.sender event).acts := by
  have handles := h.process_handles m
  rw [result_handle] at ok
  rw [startedCalls_eq]
  generalize (h.process m).acts = es, h.event? m = event? at handles ⊢
  rw [ok] at handles
  cases handles with
  | drops event? code quiet useless => simp at useless
  | sends event quiet sent =>
    refine ⟨event, rfl, sent, ?_⟩
    rw [Effect.calls_append, calls_of_isLookup quiet, calls_submit, List.nil_append]

/-- A message of no use, now or for good, leads to no call. -/
theorem startedCalls_of_useless
    (useless : (h.handle m).result = .badMessage ∨ (h.handle m).result = .repeatable) :
    h.startedCalls m = [] := by
  have handles := h.process_handles m
  rw [result_handle] at useless
  rw [startedCalls_eq]
  generalize (h.process m).acts = es, (h.process m).result = code, h.event? m = event?
    at handles useless ⊢
  cases handles with
  | drops event? code quiet _ => exact calls_of_isLookup quiet
  | sends | breaksOff => simp at useless

theorem startedCalls_of_handedBack (handedBack : (h.handle m).result.shouldAck = false) :
    h.startedCalls m = [] := by
  apply startedCalls_of_useless
  cases code : (h.handle m).result with
  | repeatable => exact .inr rfl
  | ok | badMessage | nonRepeatable =>
    rw [code] at handedBack
    cases handedBack

end Calls

/-! ## Over notifiers -/

/-- A handler that sends events through notifiers. -/
def through (p : Platform) (notifiers : List Notifier) (timeout : Nat) (newId : String) :
    Handler where
  platform := p
  sender := Sender.overNotifiers p notifiers
  timeout := timeout
  newId := newId

/-- Deciding about a message settles nothing, if sending does not. -/
theorem not_settled_of_process {h : Handler} {settlement : Settlement}
    (silent : ∀ event, .settled settlement ∉ (h.sender event).acts) (m : BusMessage) :
    .settled settlement ∉ (h.process m).acts := by
  have lookingUp {lookups : List Effect} (quiet : IsLookup lookups) :
      .settled settlement ∉ lookups := by
    intro he
    obtain ⟨name, same | same⟩ := quiet _ he <;> cases same
  have sending (event : NotificationEvent) :
      .settled settlement ∉ (Sender.submit h.sender event).acts := by
    simpa [Sender.submit] using silent event
  have handles := h.process_handles m
  generalize (h.process m).acts = es, (h.process m).result = code, h.event? m = event? at handles ⊢
  cases handles with
  | drops event? code quiet useless => exact lookingUp quiet
  | sends event quiet sent => exact List.not_mem_append (lookingUp quiet) (sending event)
  | breaksOff event quiet first =>
    exact List.not_mem_append (lookingUp quiet) fun he => sending event (first.subset he)

/-- Handling a message settles this message, once, as its code says. -/
theorem settlements_handle {h : Handler}
    (silent : ∀ event settlement, .settled settlement ∉ (h.sender event).acts) (m : BusMessage) :
    Effect.settlements (h.handle m).acts = [⟨m.id, (h.handle m).result.shouldAck⟩] := by
  have decided : Effect.settlements (h.process m).acts = [] := by
    apply List.filterMap_eq_nil_iff.2
    intro e he
    cases e with
    | settled settlement =>
      exact absurd he (not_settled_of_process (fun event => silent event settlement) m)
    | _ => rfl
  rw [Effect.settlements] at decided ⊢
  rw [result_handle]
  simp [handle, takenOn, decided]

/-- What handling a message delivers, over the notifiers and the stores of a platform. The handling
has come to a code, with the deadline as the only thing that may have cut it short; one that is cut
off together with its run comes to no code, and nothing is said of it here. -/
structure Delivers (p : Platform) (notifiers : List Notifier) (h : Handler) (m : BusMessage) :
    Prop where
  started : h.startedCalls m <+: h.unboundedCalls m
  whole : (h.handle m).result = .ok → h.startedCalls m = h.unboundedCalls m
  complete : (h.handle m).result = .ok → ∃ event subscriptions,
    h.event? m = some event ∧
      (p.allSubscriptions (Sender.scopeOf event) event.sourceType).result = .ok subscriptions ∧
      h.startedCalls m =
        Sender.callsForAll notifiers event.notification (Sender.reached event subscriptions) ∧
      Sender.AllSucceed
        (Sender.attempts notifiers event.notification 0 (Sender.reached event subscriptions)) ∧
      ∀ w : World, p.Holds w → w.subscriptions.length ≤ maxUInt64 →
        subscriptions = Sender.audience w event
  silent : (h.handle m).result = .badMessage ∨ (h.handle m).result = .repeatable →
    h.startedCalls m = []
  settled : Effect.settlements (h.handle m).acts = [⟨m.id, (h.handle m).result.shouldAck⟩]
  again : ∀ earlier : List Handler,
    (∀ before ∈ earlier, (before.handle m).result.shouldAck = false) →
      (earlier ++ [h]).flatMap (·.startedCalls m) = h.startedCalls m

/-- Handling a message starts the first of the calls that its event leads to: all of them if it ends
well, and then every subscription that the event reaches has had one call of every notifier, which
succeeded; none if the message is of no use or is handed back. So however often it was handed back
before, no call is repeated. -/
theorem handled_message_delivers (p : Platform) (notifiers : List Notifier) (timeout : Nat)
    (newId : String) (m : BusMessage) :
    Delivers p notifiers (through p notifiers timeout newId) m := by
  generalize same : through p notifiers timeout newId = h
  have real (event : NotificationEvent) : h.sender event = Sender.overNotifiers p notifiers event := by
    rw [← same]
    rfl
  exact {
    started := h.startedCalls_prefix m
    whole := by
      intro ok
      obtain ⟨event, told, sent, calls⟩ := sent_of_ok ok
      rw [calls, unboundedCalls, told]
      rfl
    complete := by
      intro ok
      obtain ⟨event, told, sent, calls⟩ := sent_of_ok ok
      rw [real] at sent
      obtain ⟨subscriptions, listed, all, succeed⟩ := Sender.calls_of_sent sent
      refine ⟨event, subscriptions, told, listed, by rw [calls, real, all], succeed, ?_⟩
      intro w holds countable
      have audience := (Sender.allSubscriptions_spec w event countable).1
      rw [← holds.allSubscriptions_result, listed] at audience
      split at audience
      next => cases audience
      next => exact Except.ok.inj audience
    silent := startedCalls_of_useless
    settled := by
      refine settlements_handle (fun event settlement => ?_) m
      rw [real]
      exact Sender.not_settled_of_send settlement
    again := by
      intro earlier handedBack
      have none : earlier.flatMap (·.startedCalls m) = [] :=
        List.flatMap_eq_nil_iff.2 fun before hb => startedCalls_of_handedBack (handedBack before hb)
      rw [List.flatMap_append, none, List.nil_append, List.flatMap_singleton] }

/-- Three channels that ask for changes of tags in all environments. -/
def threeChannels : World where
  subscriptions := ["first", "second", "third"].map fun name =>
    { id := name, sourceTypes := [.domainEvent .tag], recipient := .slack name "en",
      enabled := true }

/-- A handler for three channels whose notifier takes three seconds for each call. -/
def slowHandler (timeout : Nat) : Handler :=
  through threeChannels.platform [.failing "chat" [] [] 3000] timeout "event"

/-- Of three calls of three seconds each, two are started in five seconds and all in ten. -/
theorem third_channel_is_reached_in_ten_seconds :
    let m := Consumer.announcement "change"
    ((slowHandler 5000).handle m).result = .nonRepeatable ∧
      (slowHandler 5000).startedCalls m <+: (slowHandler 5000).unboundedCalls m ∧
      ((slowHandler 5000).startedCalls m).map (·.webhookUrl) = ["first", "second"] ∧
      ((slowHandler 10000).handle m).result = .ok ∧
      threeChannels.platform.Holds threeChannels ∧
      ∃ event, (slowHandler 10000).event? m = some event ∧
        (slowHandler 10000).startedCalls m =
          Sender.callsForAll [.failing "chat" [] [] 3000] event.notification
            (Sender.reached event (Sender.audience threeChannels event)) := by
  intro m
  have cut := handled_message_delivers threeChannels.platform [.failing "chat" [] [] 3000] 5000
    "event" m
  have done := handled_message_delivers threeChannels.platform [.failing "chat" [] [] 3000] 10000
    "event" m
  have ok : ((slowHandler 10000).handle m).result = .ok := by decide +kernel
  have holds : threeChannels.platform.Holds threeChannels := ⟨fun _ _ _ => rfl, rfl⟩
  obtain ⟨event, subscriptions, told, -, calls, -, same⟩ := done.complete ok
  refine ⟨by decide +kernel, cut.started, by decide +kernel, ok, holds, event, told, ?_⟩
  rw [← same threeChannels holds (by decide)]
  exact calls

end FlagAlerts.Handler
