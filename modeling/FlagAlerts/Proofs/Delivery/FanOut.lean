import FlagAlerts.Store.World
import FlagAlerts.Proofs.Delivery.Tags
import FlagAlerts.Proofs.Store.Listing

/-!
# Sending an event, told from the subscriptions

Sending walks through pages and carries a count of calls and a last error along. What comes of it is
told here without either: from the subscriptions in the store, the answers of the notifiers and the
state of the changed entity alone.
-/

namespace FlagAlerts.Sender

/-! ## Whom an event reaches -/

/-- The enabled subscriptions of the event's scope that listen to its source type, in the order of
the store. -/
def audience (w : World) (event : NotificationEvent) : List Subscription :=
  w.subscriptions.filter fun s =>
    s.enabled ∧ s.environmentId = (if event.isAdminEvent then "" else event.environmentId) ∧
      event.sourceType ∈ s.sourceTypes

/-- The tags in the state of the changed entity. -/
def snapshotTags (event : NotificationEvent) : Except Fault (List String) :=
  match event.notification.body with
  | .domainEvent _ _ _ _ entityData => tagsOfState entityData
  | _ => .ok []

/-- Whether a subscription filters an event by tags. -/
def filters (event : NotificationEvent) (s : Subscription) : Bool :=
  event.sourceType = .domainEvent .feature ∧ s.featureFlagTags ≠ []

/-- Whether a subscription is passed over because it shares no tag with the changed entity. -/
def lacksTags (event : NotificationEvent) (tags : List String) (s : Subscription) : Bool :=
  filters event s ∧ ∀ tag ∈ s.featureFlagTags, tag ∉ tags

/-- The subscriptions that an event is delivered to: if its tags can be read, those that are not
passed over, and otherwise those before the first that filters by tags. -/
def reached (event : NotificationEvent) (subscriptions : List Subscription) : List Subscription :=
  match snapshotTags event with
  | .ok tags => subscriptions.filter fun s => !lacksTags event tags s
  | .error _ => subscriptions.takeWhile fun s => !filters event s

/-- Why the walk is broken off: some subscription filters by tags that cannot be read. -/
def unreadable? (event : NotificationEvent) (subscriptions : List Subscription) : Option Fault :=
  match snapshotTags event with
  | .ok _ => none
  | .error fault => if subscriptions.any (filters event) then some fault else none

/-! ## What notifiers are called with, and what they answer -/

/-- A call of a notifier for a subscription, with its answer. -/
structure Attempt where
  subscription : Subscription
  notifier : Notifier
  answer : Except NotifyError Unit

namespace Attempt

/-- The error that a failed call leaves. -/
def error? (a : Attempt) : Option SendError :=
  match a.answer with
  | .ok () => none
  | .error e => some (.notify a.subscription.id a.notifier.name e)

/-- What is to be seen of a call. -/
def effects (kind : String) (a : Attempt) : List Effect :=
  let recipient := a.subscription.recipient
  [.notified ⟨a.notifier.name, kind, recipient.webhookUrl.getD "", recipient.language⟩,
    .counted (.delivered a.notifier.name (if a.error?.isSome then .fail else .success))]

/-- The last error that calls leave, or what there was otherwise. -/
def lastError (otherwise : Except SendError Unit) (as : List Attempt) : Except SendError Unit :=
  match (as.filterMap error?).getLast? with
  | some e => .error e
  | none => otherwise

end Attempt

/-- The calls for one subscription after a number of earlier calls: one of each notifier, up to and
with the first that fails. -/
def attemptsFor (notifiers : List Notifier) (n : Notification) (earlier : Nat) (s : Subscription) :
    List Attempt :=
  let all := notifiers.mapIdx fun i notifier =>
    ⟨s, notifier, (notifier.deliver (earlier + i) n s.recipient).value⟩
  all.take (all.findIdx (·.error?.isSome) + 1)

/-- The calls for subscriptions one after another. -/
def attempts (notifiers : List Notifier) (n : Notification) :
    (earlier : Nat) → List Subscription → List Attempt
  | _, [] => []
  | earlier, s :: rest =>
    let own := attemptsFor notifiers n earlier s
    own ++ attempts notifiers n (earlier + own.length) rest

/-! ## The reference -/

/-- The calls that an event leads to. -/
def callsFor (w : World) (notifiers : List Notifier) (event : NotificationEvent) : List Attempt :=
  attempts notifiers event.notification 0 (reached event (audience w event))

/-- How sending an event ends. -/
def verdict (w : World) (notifiers : List Notifier) (event : NotificationEvent) :
    Except SendError Unit :=
  if event.notification.expectedSourceType? ≠ some event.sourceType then
    .error (.sourceTypeMismatch event.id event.sourceType event.notification.kind)
  else
    match w.subscriptionError with
    | some e => .error (.listSubscriptions e)
    | none =>
      match unreadable? event (audience w event) with
      | some fault => .error (.decodeEntity event.id fault)
      | none => Attempt.lastError (.ok ()) (callsFor w notifiers event)

/-- What sending an event does, apart from what is counted of it as a whole: one listing for each
full page and one more, then the calls. -/
def conduct (w : World) (notifiers : List Notifier) (event : NotificationEvent) : List Effect :=
  if event.notification.expectedSourceType? ≠ some event.sourceType then []
  else
    match w.subscriptionError with
    | some _ => [.listedSubscriptions]
    | none =>
      List.replicate ((audience w event).length / 500 + 1) .listedSubscriptions ++
        (callsFor w notifiers event).flatMap (Attempt.effects event.notification.kind)

/-! ## Calls -/

namespace Attempt

@[simp] theorem lastError_nil (otherwise : Except SendError Unit) :
    lastError otherwise [] = otherwise := rfl

/-- Of two batches of calls the later one has the last error, if it has any. -/
theorem lastError_append (otherwise : Except SendError Unit) (a b : List Attempt) :
    lastError otherwise (a ++ b) = lastError (lastError otherwise a) b := by
  simp only [lastError, List.filterMap_append, List.getLast?_append]
  cases (b.filterMap error?).getLast? <;> rfl

end Attempt

section Calls

variable {n : Notification} {s : Subscription} {notifiers : List Notifier} {notifier : Notifier}
  {earlier : Nat}

@[simp] theorem attemptsFor_nil : attemptsFor [] n earlier s = [] := rfl

/-- The first notifier is called, and the others only if it does not fail. -/
theorem attemptsFor_cons :
    attemptsFor (notifier :: notifiers) n earlier s =
      ⟨s, notifier, (notifier.deliver earlier n s.recipient).value⟩ ::
        match (notifier.deliver earlier n s.recipient).value with
        | .ok () => attemptsFor notifiers n (earlier + 1) s
        | .error _ => [] := by
  have later : ∀ i, earlier + 1 + i = earlier + (i + 1) := by omega
  cases answer : (notifier.deliver earlier n s.recipient).value with
  | ok value =>
    simp [attemptsFor, List.mapIdx_cons, List.findIdx_cons, Attempt.error?, answer, later]
  | error e =>
    simp [attemptsFor, List.mapIdx_cons, List.findIdx_cons, Attempt.error?, answer]

/-- Notifying a subscription makes its calls, counts them, and leaves their error. -/
theorem notify_spec (n : Notification) (s : Subscription) (notifiers : List Notifier)
    (earlier : Nat) (otherwise : Except SendError Unit) :
    (notify n s notifiers earlier).result.1 = earlier + (attemptsFor notifiers n earlier s).length ∧
      (match (notify n s notifiers earlier).result.2 with
        | .ok () => otherwise
        | .error e => .error e) =
        Attempt.lastError otherwise (attemptsFor notifiers n earlier s) ∧
      (notify n s notifiers earlier).acts =
        (attemptsFor notifiers n earlier s).flatMap (Attempt.effects n.kind) := by
  induction notifiers generalizing earlier with
  | nil => exact ⟨rfl, rfl, rfl⟩
  | cons notifier rest ih =>
    rw [attemptsFor_cons]
    cases answer : (notifier.deliver earlier n s.recipient).value with
    | error e => simp [notify, answer, Attempt.lastError, Attempt.error?, Attempt.effects]
    | ok value =>
      obtain ⟨count, error, acts⟩ := ih (earlier + 1)
      refine ⟨?_, ?_, ?_⟩
      · simp only [notify, Timed.result_bind, Timed.result_await, answer, count, List.length_cons]
        omega
      · simpa [notify, answer, Attempt.lastError, Attempt.error?] using error
      · simp [notify, answer, acts, Attempt.effects, Attempt.error?]

end Calls

/-! ## The walk over subscriptions -/

section Walk

variable {event : NotificationEvent} {tags : List String} {fault : Fault}

theorem asksForTags_eq (event : NotificationEvent) (s : Subscription) :
    asksForTags event s = filters event s := by
  rw [Bool.eq_iff_iff]
  simp [asksForTags, filters]

/-- Only a change of an entity has a source type by which subscriptions filter. -/
theorem tagsOf_eq {s : Subscription}
    (expected : event.notification.expectedSourceType? = some event.sourceType)
    (asks : filters event s = true) :
    tagsOf event = (snapshotTags event).mapError (.decodeEntity event.id) := by
  obtain ⟨feature, -⟩ := of_decide_eq_true asks
  rw [feature, Notification.expectedSourceType?] at expected
  cases body : event.notification.body with
  | domainEvent => simp only [tagsOf, snapshotTags, body, read_tags]
  | featureStale | experimentRunning | mauCount => simp [body] at expected

theorem wants_of_ok (expected : event.notification.expectedSourceType? = some event.sourceType)
    (read : snapshotTags event = .ok tags) (s : Subscription) :
    wants event s = .ok !lacksTags event tags s := by
  rw [wants, asksForTags_eq]
  cases asks : filters event s with
  | false => simp [lacksTags, asks]
  | true =>
    rw [if_pos rfl, tagsOf_eq expected asks, read]
    have shares : sharesTag s.featureFlagTags tags = !lacksTags event tags s := by
      rw [Bool.eq_iff_iff]
      simp [sharesTag, lacksTags, asks]
    rw [← shares]
    rfl

theorem wants_of_error (expected : event.notification.expectedSourceType? = some event.sourceType)
    (read : snapshotTags event = .error fault) (s : Subscription) :
    wants event s = if filters event s then .error (.decodeEntity event.id fault) else .ok true := by
  rw [wants, asksForTags_eq]
  cases asks : filters event s with
  | false => rfl
  | true =>
    rw [if_pos rfl, if_pos rfl, tagsOf_eq expected asks, read]
    rfl

/-- A subscription that wants the event gets its calls before the walk goes on. -/
theorem deliverAll_cons {notifiers : List Notifier} {s : Subscription} {earlier : Nat}
    {own : List Attempt} (rest : List Subscription) (last : Except SendError Unit)
    (wanted : wants event s = .ok true)
    (calls : attemptsFor notifiers event.notification earlier s = own) :
    (deliverAll notifiers event (s :: rest) earlier last).result =
        (deliverAll notifiers event rest (earlier + own.length)
          (Attempt.lastError last own)).result ∧
      (deliverAll notifiers event (s :: rest) earlier last).acts =
        own.flatMap (Attempt.effects event.notification.kind) ++
          (deliverAll notifiers event rest (earlier + own.length)
            (Attempt.lastError last own)).acts := by
  obtain ⟨count, error, acts⟩ := notify_spec event.notification s notifiers earlier last
  rw [calls] at count error acts
  constructor
  · simp only [deliverAll, wanted, Timed.result_bind]
    exact congrArg₂ (fun earlier last => (deliverAll notifiers event rest earlier last).result)
      count error
  · simp only [deliverAll, wanted, Timed.acts_bind]
    rw [acts]
    exact congrArg (own.flatMap (Attempt.effects event.notification.kind) ++ ·)
      (congrArg₂ (fun earlier last => (deliverAll notifiers event rest earlier last).acts)
        count error)

/-- The walk makes the calls for the subscriptions that are reached, and ends with the last error
unless it is broken off. -/
theorem deliverAll_spec (notifiers : List Notifier)
    (expected : event.notification.expectedSourceType? = some event.sourceType)
    (subscriptions : List Subscription) (earlier : Nat) (last : Except SendError Unit) :
    (deliverAll notifiers event subscriptions earlier last).result =
        (match unreadable? event subscriptions with
        | some fault => .error (.decodeEntity event.id fault)
        | none => Attempt.lastError last
            (attempts notifiers event.notification earlier (reached event subscriptions))) ∧
      (deliverAll notifiers event subscriptions earlier last).acts =
        (attempts notifiers event.notification earlier (reached event subscriptions)).flatMap
          (Attempt.effects event.notification.kind) := by
  induction subscriptions generalizing earlier last with
  | nil => cases read : snapshotTags event <;> simp [deliverAll, unreadable?, reached, read, attempts]
  | cons s rest ih =>
    -- Whether the tags can be read decides what the walk does at `s`.
    cases read : snapshotTags event with
    | ok tags =>
      have wanted := wants_of_ok expected read s
      simp only [unreadable?, reached, read] at ih ⊢
      cases lacks : lacksTags event tags s with
      | true =>
        rw [lacks, Bool.not_true] at wanted
        rw [List.filter_cons_of_neg (by simp [lacks])]
        simpa only [deliverAll, wanted] using ih earlier last
      | false =>
        rw [lacks, Bool.not_false] at wanted
        rw [List.filter_cons_of_pos (by simp [lacks])]
        obtain ⟨result, acts⟩ := deliverAll_cons rest last wanted rfl
        obtain ⟨onward, done⟩ := ih _ _
        rw [result, acts, onward, done]
        simp [attempts, Attempt.lastError_append]
    | error fault =>
      have wanted := wants_of_error expected read s
      simp only [unreadable?, reached, read] at ih ⊢
      cases asks : filters event s with
      | true =>
        rw [asks, if_pos rfl] at wanted
        simp [deliverAll, wanted, asks, attempts]
      | false =>
        rw [asks, if_neg Bool.false_ne_true] at wanted
        obtain ⟨result, acts⟩ := deliverAll_cons rest last wanted rfl
        obtain ⟨onward, done⟩ := ih _ _
        rw [result, acts, onward, done]
        simp [asks, attempts, Attempt.lastError_append]

end Walk

/-! ## The whole -/

section Whole

variable {w : World} {notifiers : List Notifier} {event : NotificationEvent}

/-- The stores in memory list the audience. -/
theorem matching_eq (w : World) (event : NotificationEvent) :
    w.matching (scopeOf event) [event.sourceType] = audience w event := by
  apply List.filter_congr
  intro s _
  have scope : World.scopeId (scopeOf event) =
      if event.isAdminEvent then "" else event.environmentId := by
    cases admin : event.isAdminEvent <;> simp [scopeOf, admin, World.scopeId]
  rw [scope, Bool.eq_iff_iff]
  simp only [Bool.and_eq_true, beq_iff_eq, List.any_eq_true, List.contains_iff_mem,
    List.mem_singleton, exists_eq_right, decide_eq_true_eq, and_assoc]

/-- Listing the subscriptions of an event gives its audience, page by page, or the error of the
store. -/
theorem allSubscriptions_spec (w : World) (event : NotificationEvent)
    (countable : w.subscriptions.length ≤ maxUInt64) :
    (w.platform.allSubscriptions (scopeOf event) event.sourceType).result =
        (match w.subscriptionError with
        | some e => .error e
        | none => .ok (audience w event)) ∧
      (w.platform.allSubscriptions (scopeOf event) event.sourceType).acts =
        (match w.subscriptionError with
        | some _ => [.listedSubscriptions]
        | none => List.replicate ((audience w event).length / 500 + 1) .listedSubscriptions) := by
  have fewer : (audience w event).length ≤ w.subscriptions.length := List.length_filter_le _ _
  cases failing : w.subscriptionError with
  | some e =>
    have refused (request : ListRequest) :
        w.listSubscriptions (scopeOf event) [event.sourceType] request = .error e := by
      rw [World.listSubscriptions, failing]
      rfl
    exact Page.collectAll_error (fun request => by simp [World.platform, refused])
      (fun request => by simp) (Nat.succ_pos _)
  | none =>
    have listed (request : ListRequest) :
        w.listSubscriptions (scopeOf event) [event.sourceType] request =
          Page.ofList (audience w event) request := by
      rw [World.listSubscriptions, failing, matching_eq]
      rfl
    refine Page.collectAll_list (fun request => by simp [World.platform, listed])
      (fun request => by simp) (by decide) (by omega) ?_
    simp only [World.platform]
    omega

/-- Listing subscriptions does nothing else. -/
theorem acts_allSubscriptions {p : Platform} {scope : Scope} {sourceType : SourceType} {e : Effect}
    (he : e ∈ (p.allSubscriptions scope sourceType).acts) : e = .listedSubscriptions :=
  Page.acts_collectFrom (P := (· = .listedSubscriptions)) (fun request => by simp) _ _ _ e he

/-- A listing that is refused, by a store of any kind and at any page, ends the sending: nobody is
called. -/
theorem send_of_refused {p : Platform} {e : StoreError} (notifiers : List Notifier)
    (expected : event.notification.expectedSourceType? = some event.sourceType)
    (refused : (p.allSubscriptions (scopeOf event) event.sourceType).result = .error e) :
    (overNotifiers p notifiers event).result = .error (.listSubscriptions e) ∧
      Effect.calls (overNotifiers p notifiers event).acts = [] := by
  have listing : ∀ a ∈ (p.allSubscriptions (scopeOf event) event.sourceType).acts,
      a = .listedSubscriptions := fun _ => acts_allSubscriptions
  constructor
  · simp [overNotifiers, fanOut, expected, refused]
  · apply List.filterMap_eq_nil_iff.2
    intro a ha
    have known : a = .counted (.senderReceived event.notification.kind) ∨
        a ∈ (p.allSubscriptions (scopeOf event) event.sourceType).acts ∨
        a = .counted (.senderHandled event.notification.kind .fail) := by
      simpa [overNotifiers, fanOut, expected, refused, outcomeOf] using ha
    obtain rfl | listed | rfl := known
    · rfl
    · rw [listing a listed]
    · rfl

/-- What sending an event does and how it ends, for every content of the store and all notifiers:
the calls for the subscriptions that it reaches, in the order of the store, and the error that comes
first among a wrong source type, a failed listing, tags that cannot be read and the last failed
call. A store of any other kind may refuse any page, and then nobody is called. A list in memory has
at most as many members as can be counted in 64 bits. -/
theorem send_eq_reference (w : World) (notifiers : List Notifier) (event : NotificationEvent)
    (countable : w.subscriptions.length ≤ maxUInt64) :
    (overNotifiers w.platform notifiers event).result = verdict w notifiers event ∧
      (overNotifiers w.platform notifiers event).acts =
        [.counted (.senderReceived event.notification.kind)] ++ conduct w notifiers event ++
          [.counted (.senderHandled event.notification.kind
            (outcomeOf (verdict w notifiers event)))] ∧
      ∀ (p : Platform) (e : StoreError),
        event.notification.expectedSourceType? = some event.sourceType →
        (p.allSubscriptions (scopeOf event) event.sourceType).result = .error e →
        (overNotifiers p notifiers event).result = .error (.listSubscriptions e) ∧
          Effect.calls (overNotifiers p notifiers event).acts = [] := by
  obtain ⟨listed, listing⟩ := allSubscriptions_spec w event countable
  have sent : (fanOut w.platform notifiers event).result = verdict w notifiers event ∧
      (fanOut w.platform notifiers event).acts = conduct w notifiers event := by
    by_cases expected : event.notification.expectedSourceType? = some event.sourceType
    · cases failing : w.subscriptionError with
      | some e =>
        rw [failing] at listed listing
        simp [fanOut, verdict, conduct, expected, failing, listed, listing]
      | none =>
        rw [failing] at listed listing
        obtain ⟨result, acts⟩ := deliverAll_spec notifiers expected (audience w event) 0 (.ok ())
        simp [fanOut, verdict, conduct, expected, failing, listed, listing, result, acts, callsFor]
    · simp [fanOut, verdict, conduct, expected]
  obtain ⟨result, acts⟩ := sent
  refine ⟨?_, ?_, fun p e expected refused => send_of_refused notifiers expected refused⟩
  · simp [overNotifiers, result]
  · simp [overNotifiers, result, acts]

/-- Three channels: the first is told of feature flags that are no longer used as well as of their
changes, the others of changes only, and only of flags with certain tags. -/
def threeChannels : World where
  subscriptions := [
    { id := "first", environmentId := "e", sourceTypes := [.featureStale, .domainEvent .feature],
      recipient := .slack "here" "en", enabled := true },
    { id := "second", environmentId := "e", sourceTypes := [.domainEvent .feature],
      featureFlagTags := ["server", "web"], recipient := .slack "there" "ja", enabled := true },
    { id := "third", environmentId := "e", sourceTypes := [.domainEvent .feature],
      featureFlagTags := ["server"], recipient := .slack "elsewhere" "en", enabled := true }]

/-- The state of a feature flag with its tags. -/
def flagState (tags : Json) : Json :=
  .record [("id", .text "flag"), ("tags", tags), ("enabled", .bool true)]

/-- A change of a feature flag that leaves it in a state. -/
def flagChange (state : Json) : NotificationEvent :=
  ⟨"event", "e", .domainEvent .feature,
    ⟨"e", "prod",
      .domainEvent { email := "a@example.com" } (.known .feature) "flag" "UPDATED" state.compact⟩,
    false⟩

/-- A change of a flag with the tags `web` and `new` reaches the channel that filters by no tag and
the one that shares `web`. A notifier that fails for the former keeps the next one from it only.
Tags that are no list end the sending at the first channel that filters by them, after the calls for
the one before it; and a store that fails keeps all calls back. -/
theorem send_to_three_channels :
    let broken : World := { threeChannels with subscriptionError := some (.internal "disk") }
    let chat := Notifier.failing "chat" ["here"] [] 5
    let mail := Notifier.failing "mail" [] [] 0
    let change := flagChange (flagState (Json.texts ["web", "new"]))
    let unreadable := flagChange (flagState (.text "web"))
    tagsOfState (flagState (Json.texts ["web", "new"])).compact = .ok ["web", "new"] ∧
      tagsOfState (flagState (.text "web")).compact = .error .mismatch ∧
      (overNotifiers threeChannels.platform [chat, mail] change).result =
        .error (.notify "first" "chat" (.status 500 "failure for here")) ∧
      Effect.calls (overNotifiers threeChannels.platform [chat, mail] change).acts =
        [⟨"chat", "domain_event", "here", "en"⟩, ⟨"chat", "domain_event", "there", "ja"⟩,
          ⟨"mail", "domain_event", "there", "ja"⟩] ∧
      (overNotifiers threeChannels.platform [chat, mail] unreadable).result =
        .error (.decodeEntity "event" .mismatch) ∧
      Effect.calls (overNotifiers threeChannels.platform [chat, mail] unreadable).acts =
        [⟨"chat", "domain_event", "here", "en"⟩] ∧
      (overNotifiers broken.platform [chat, mail] change).result =
        .error (.listSubscriptions (.internal "disk")) := by
  intro broken chat mail change unreadable
  have countable : threeChannels.subscriptions.length ≤ maxUInt64 := by decide
  have told (tags : Json) (inRange : tags.InRange) :
      tagsOfState (flagState tags).compact = tags.texts?.elim (.error .mismatch) .ok :=
    tagsOfState_compact ⟨trivial, inRange, trivial, trivial⟩
  obtain ⟨result, acts, refused⟩ :=
    send_eq_reference threeChannels [chat, mail] change countable
  obtain ⟨ended, made, -⟩ :=
    send_eq_reference threeChannels [chat, mail] unreadable countable
  have listing : (broken.platform.allSubscriptions (scopeOf change) change.sourceType).result =
      .error (.internal "disk") := by decide +kernel
  refine ⟨told _ ⟨trivial, trivial, trivial⟩, told _ trivial, ?_, ?_, ?_, ?_,
    (refused broken.platform _ rfl listing).1⟩
  · rw [result]
    decide +kernel
  · rw [acts]
    decide +kernel
  · rw [ended]
    decide +kernel
  · rw [made]
    decide +kernel

end Whole

end FlagAlerts.Sender
