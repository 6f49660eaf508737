import FlagAlerts.Proofs.Consumer.Handling
import FlagAlerts.Proofs.Consumer.Standing
import FlagAlerts.Proofs.Timed

/-!
# What is decided about a message

The decision about a message is a table. It depends on what the message tells, on the answer to the
look-up of its environment and on the answer of the sender, and on when these answers come: both
stages share one deadline. Handling a message does what the table says, once, where a clock can tell
that deadline; where it cannot, the attempt ends the whole run and nothing is decided.
-/

namespace FlagAlerts

namespace Effect

/-- The namespace whose environment is asked for. -/
def question? : Effect → Option String
  | .lookingUp name => some name
  | _ => none

/-- The namespaces whose environments were asked for. -/
def questions (es : List Effect) : List String := es.filterMap question?

/-- The metric of messages that is counted. -/
def messageMetric? : Effect → Option Metric
  | .counted (.messageReceived kind) => some (.messageReceived kind)
  | .counted (.messageHandled kind code) => some (.messageHandled kind code)
  | .counted .messageDuration => some .messageDuration
  | _ => none

/-- The metrics of messages that were counted. -/
def messageMetrics (es : List Effect) : List Metric := es.filterMap messageMetric?

theorem questions_cons (e : Effect) (es : List Effect) :
    questions (e :: es) = questions [e] ++ questions es :=
  List.filterMap_append (l := [e])

theorem question?_of_isOfSending (e : Effect) (own : e.isOfSending = true) : e.question? = none := by
  cases e with
  | lookingUp => cases own
  | _ => rfl

theorem messageMetric?_of_isOfSending (e : Effect) (own : e.isOfSending = true) :
    e.messageMetric? = none := by
  cases e with
  | counted metric =>
    cases metric with
    | messageReceived | messageHandled | messageDuration => cases own
    | _ => rfl
  | _ => rfl

end Effect

namespace Handler

/-- What is decided about a message, and what is done for it. -/
structure Decision where
  code : HandleCode
  /-- The namespace whose environment is asked for. -/
  question? : Option String := none
  /-- The event that is handed on. -/
  event? : Option NotificationEvent := none
  /-- The time that it takes. -/
  elapsed : Nat := 0

/-! ## The table -/

/-- A message has a name, and its payload tells a change. -/
structure Tells (m : BusMessage) (change : DomainEvent) : Prop where
  named : ∃ name, m.attributes.lookup idAttribute = some name ∧ name ≠ ""
  readable : DomainEvent.codec.read (Text.symbolsOfBytes m.data) = .ok change

/-- The environment of a change, by its name and url code, with the question that was asked for it
and the time that the answer took. A change across environments has none, and needs no question. -/
inductive Locates (h : Handler) (change : DomainEvent) :
    (question? : Option String) → (id urlCode : String) → (spent : Nat) → Prop where
  | everywhere (admin : change.isAdminEvent = true) : Locates h change none "" "" 0
  | environment (answer : StoreAnswer Environment) (found : Environment)
    (own : change.isAdminEvent = false)
    (asked : h.platform.lookup change.environmentNamespace = answer)
    (inTime : answer.delay ≤ h.timeout) (here : answer.value = .ok found) :
    Locates h change (some change.environmentNamespace) found.id found.urlCode answer.delay

/-- The event that tells a change of an environment. -/
def telling (h : Handler) (change : DomainEvent) (environmentId urlCode : String)
    (sourceType : SourceType) : NotificationEvent where
  id := h.newId
  environmentId := environmentId
  sourceType := sourceType
  notification := ⟨environmentId, urlCode, .domainEvent change.editor change.entityType
    change.entityId change.eventType change.entityData⟩
  isAdminEvent := change.isAdminEvent

/-- What is decided about a message, row by row. -/
inductive Decides (h : Handler) (m : BusMessage) : Decision → Prop where
  | unnamed (nameless : ∀ name, m.attributes.lookup idAttribute = some name → name = "") :
    Decides h m { code := .badMessage }
  | unreadable (fault : Fault)
    (named : ∃ name, m.attributes.lookup idAttribute = some name ∧ name ≠ "")
    (garbled : DomainEvent.codec.read (Text.symbolsOfBytes m.data) = .error fault) :
    Decides h m { code := .badMessage }
  | overdueLookup (change : DomainEvent) (tells : Tells m change)
    (own : change.isAdminEvent = false)
    (late : h.timeout < (h.platform.lookup change.environmentNamespace).delay) :
    Decides h m
      { code := .repeatable, question? := some change.environmentNamespace, elapsed := h.timeout }
  | noEnvironment (change : DomainEvent) (answer : StoreAnswer Environment) (what : String)
    (tells : Tells m change) (own : change.isAdminEvent = false)
    (asked : h.platform.lookup change.environmentNamespace = answer)
    (inTime : answer.delay ≤ h.timeout) (gone : answer.value = .error (.notFound what)) :
    Decides h m
      { code := .badMessage, question? := some change.environmentNamespace, elapsed := answer.delay }
  | failedLookup (change : DomainEvent) (answer : StoreAnswer Environment) (e : StoreError)
    (tells : Tells m change) (own : change.isAdminEvent = false)
    (asked : h.platform.lookup change.environmentNamespace = answer)
    (inTime : answer.delay ≤ h.timeout) (failed : answer.value = .error e)
    (other : ∀ what, e ≠ .notFound what) :
    Decides h m
      { code := .repeatable, question? := some change.environmentNamespace, elapsed := answer.delay }
  | unheard (change : DomainEvent) {question? : Option String} {id urlCode : String} {spent : Nat}
    (tells : Tells m change) (located : Locates h change question? id urlCode spent)
    (nobody : change.entityType.sourceType? = none) :
    Decides h m { code := .badMessage, question? := question?, elapsed := spent }
  | sent (change : DomainEvent) {question? : Option String} {id urlCode : String} {spent : Nat}
    (sourceType : SourceType) (event : NotificationEvent)
    (tells : Tells m change) (located : Locates h change question? id urlCode spent)
    (heard : change.entityType.sourceType? = some sourceType)
    (told : event = h.telling change id urlCode sourceType)
    (inTime : spent + (h.sender event).duration ≤ h.timeout)
    (success : (h.sender event).result = .ok ()) :
    Decides h m ⟨.ok, question?, some event, spent + (h.sender event).duration⟩
  | failedSend (change : DomainEvent) {question? : Option String} {id urlCode : String}
    {spent : Nat} (sourceType : SourceType) (event : NotificationEvent) (e : SendError)
    (tells : Tells m change) (located : Locates h change question? id urlCode spent)
    (heard : change.entityType.sourceType? = some sourceType)
    (told : event = h.telling change id urlCode sourceType)
    (inTime : spent + (h.sender event).duration ≤ h.timeout)
    (failure : (h.sender event).result = .error e) :
    Decides h m ⟨.nonRepeatable, question?, some event, spent + (h.sender event).duration⟩
  | overdueSend (change : DomainEvent) {question? : Option String} {id urlCode : String}
    {spent : Nat} (sourceType : SourceType) (event : NotificationEvent)
    (tells : Tells m change) (located : Locates h change question? id urlCode spent)
    (heard : change.entityType.sourceType? = some sourceType)
    (told : event = h.telling change id urlCode sourceType)
    (late : h.timeout < spent + (h.sender event).duration) :
    Decides h m ⟨.nonRepeatable, question?, some event, h.timeout⟩

/-! ## Doing what was decided -/

/-- Work that ends as was decided: it asks and hands on what was decided, and does nothing else but
to look up and to send. -/
structure CarriesOut (work : Work HandleCode) (d : Decision) : Prop where
  code : work.result = d.code
  lasts : work.duration = d.elapsed
  acts : ∃ lookups sending, work.acts = lookups ++ (d.event?.toList.map Effect.submitted ++ sending) ∧
    IsLookup lookups ∧ Effect.questions lookups = d.question?.toList ∧
    ∀ e ∈ sending, e.isOfSending = true

section Deciding

variable {h : Handler} {m : BusMessage} {change : DomainEvent} {d : Decision}

/-- A decision that takes no time and does nothing. -/
theorem carriesOut_pure (code : HandleCode) : CarriesOut (pure code) { code := code } where
  code := rfl
  lasts := rfl
  acts := ⟨[], [], rfl, isLookup_nil, rfl, by simp⟩

/-- A look-up asks one question, however soon it is cut off. -/
theorem questions_lookUp_within (p : Platform) (environmentNamespace : String) (budget : Nat) :
    Effect.questions ((p.lookUp environmentNamespace).within budget).acts =
      [environmentNamespace] := by
  let answered : Work (Except StoreError Environment) := do
    let answer ← Timed.await (p.lookup environmentNamespace)
    Timed.tell (.lookedUp environmentNamespace)
    return answer
  have first : ((p.lookUp environmentNamespace).within budget).acts =
      .lookingUp environmentNamespace :: (answered.within budget).acts := rfl
  have silent : Effect.questions (answered.within budget).acts = [] := by
    apply List.filterMap_eq_nil_iff.2
    intro e he
    have whole := (Timed.acts_within answered budget).subset he
    simp only [answered, Timed.acts_bind, Timed.acts_await, Timed.acts_tell, Timed.acts_pure,
      List.nil_append, List.append_nil, List.mem_singleton] at whole
    rw [whole]
    rfl
  rw [first, Effect.questions_cons, silent]
  rfl

theorem duration_lookUp (p : Platform) (environmentNamespace : String) :
    (p.lookUp environmentNamespace).duration = (p.lookup environmentNamespace).delay := by
  simp [Platform.lookUp]

theorem result_lookUp (p : Platform) (environmentNamespace : String) :
    (p.lookUp environmentNamespace).result = (p.lookup environmentNamespace).value := by
  simp [Platform.lookUp]

/-! ### Putting the parts together -/

/-- What is decided after a look-up takes the time of the look-up as well. -/
theorem CarriesOut.after {α : Type} {lookup : Work α} {f : α → Work HandleCode} {code : HandleCode}
    {question? : Option String} {event? : Option NotificationEvent} {elapsed : Nat}
    (quiet : IsLookup lookup.acts) (asks : Effect.questions lookup.acts = question?.toList)
    (rest : CarriesOut (f lookup.result) ⟨code, none, event?, elapsed⟩) :
    CarriesOut (lookup >>= f) ⟨code, question?, event?, lookup.duration + elapsed⟩ := by
  obtain ⟨others, sending, acts, quiet', silent, own⟩ := rest.acts
  refine ⟨?_, ?_, lookup.acts ++ others, sending, ?_, ?_, ?_, own⟩
  · rw [Timed.result_bind]
    exact rest.code
  · rw [Timed.duration_bind, rest.lasts]
  · rw [Timed.acts_bind, acts, List.append_assoc]
  · intro e he
    exact (List.mem_append.1 he).elim (quiet e) (quiet' e)
  · have none : others.filterMap Effect.question? = [] := silent
    rw [Effect.questions, List.filterMap_append, none, List.append_nil]
    exact asks

/-- The code of a send that may have been cut off. -/
def codeOfSend : Option (Except SendError Unit) → HandleCode
  | some (.ok ()) => .ok
  | _ => .nonRepeatable

theorem handOn_unheard (nobody : change.entityType.sourceType? = none)
    (environment : Option Environment) (timeLeft : Nat) :
    CarriesOut (h.handOn change environment timeLeft) { code := .badMessage } := by
  unfold handOn
  rw [nobody]
  exact carriesOut_pure .badMessage

theorem handOn_heard (keeps : h.sender.KeepsToItself) {sourceType : SourceType}
    (heard : change.entityType.sourceType? = some sourceType) (environment : Option Environment)
    (timeLeft : Nat) {event : NotificationEvent}
    (told : eventOf h.newId change environment sourceType = event) :
    CarriesOut (h.handOn change environment timeLeft)
      ⟨codeOfSend ((h.sender event).within timeLeft).result, none, some event,
        min (h.sender event).duration timeLeft⟩ := by
  have plan : h.handOn change environment timeLeft =
      (Sender.submit h.sender event).within timeLeft >>= fun outcome =>
        pure (codeOfSend outcome) := by
    unfold handOn
    simp only [heard, told]
    congr 1
    funext outcome
    rcases outcome with _ | _ | _ <;> rfl
  have submitted : (Sender.submit h.sender event).within timeLeft =
      .act (.submitted event) ((h.sender event).within timeLeft) := rfl
  rw [plan, submitted]
  refine ⟨?_, ?_, [], ((h.sender event).within timeLeft).acts, ?_, isLookup_nil, rfl, ?_⟩
  · rw [Timed.result_bind]
    rfl
  · rw [Timed.duration_bind]
    exact Timed.duration_within _ _
  · rw [Timed.acts_bind]
    exact List.append_nil _
  · intro e he
    exact keeps event e ((Timed.acts_within _ _).subset he)

theorem process_of_tells (tells : Tells m change) : h.process m = h.tellChange change := by
  obtain ⟨name, given, named⟩ := tells.named
  have present : (m.valueOf idAttribute).isEmpty = false := by
    rw [BusMessage.valueOf, given]
    exact String.isEmpty_eq_false_iff.2 named
  unfold process
  rw [present, tells.readable]
  rfl

theorem process_of_nameless
    (nameless : ∀ name, m.attributes.lookup idAttribute = some name → name = "") :
    h.process m = pure .badMessage := by
  have missing : (m.valueOf idAttribute).isEmpty = true := by
    unfold BusMessage.valueOf
    cases given : m.attributes.lookup idAttribute with
    | none => rfl
    | some name =>
      rw [nameless name given]
      rfl
  unfold process
  rw [missing]
  rfl

theorem process_of_unreadable {fault : Fault}
    (garbled : DomainEvent.codec.read (Text.symbolsOfBytes m.data) = .error fault) :
    h.process m = pure .badMessage := by
  unfold process
  rw [garbled]
  split <;> rfl

/-- A change of an environment begins with the look-up, which has the whole time. -/
theorem process_of_own (tells : Tells m change) (own : change.isAdminEvent = false)
    {code : HandleCode} {event? : Option NotificationEvent} {elapsed : Nat}
    {answer : StoreAnswer Environment}
    (asked : h.platform.lookup change.environmentNamespace = answer)
    (rest : ∀ outcome, outcome = (if answer.delay ≤ h.timeout then some answer.value else none) →
      CarriesOut
        (match outcome with
        | some (.ok environment) => h.handOn change (some environment) (h.timeout - answer.delay)
        | some (.error e) => pure (if e.isNotFound then .badMessage else .repeatable)
        | none => pure .repeatable) ⟨code, none, event?, elapsed⟩) :
    CarriesOut (h.process m) ⟨code, some change.environmentNamespace, event?,
      min answer.delay h.timeout + elapsed⟩ := by
  have lasts : (h.platform.lookUp change.environmentNamespace).duration = answer.delay := by
    rw [duration_lookUp, asked]
  have gives : (h.platform.lookUp change.environmentNamespace).result = answer.value := by
    rw [result_lookUp, asked]
  rw [process_of_tells tells, ← lasts, ← Timed.duration_within]
  unfold tellChange
  rw [own]
  refine CarriesOut.after (isLookup_lookUp_within _ _ _) (questions_lookUp_within _ _ _) ?_
  rw [Timed.result_within, lasts, gives]
  exact rest _ rfl

theorem Locates.spent_le {question? : Option String} {id urlCode : String} {spent : Nat}
    (located : Locates h change question? id urlCode spent) : spent ≤ h.timeout := by
  cases located with
  | everywhere => exact Nat.zero_le _
  | environment answer found own asked inTime => exact inTime

section Located

variable {question? : Option String} {id urlCode : String} {spent : Nat}

/-- What is decided about a located change, apart from the look-up, is decided by handing on. -/
theorem process_of_located (tells : Tells m change)
    (located : Locates h change question? id urlCode spent)
    {code : HandleCode} {event? : Option NotificationEvent} {elapsed : Nat}
    (rest : ∀ environment, eventOf h.newId change environment = h.telling change id urlCode →
      CarriesOut (h.handOn change environment (h.timeout - spent)) ⟨code, none, event?, elapsed⟩) :
    CarriesOut (h.process m) ⟨code, question?, event?, spent + elapsed⟩ := by
  cases located with
  | everywhere admin =>
    have whole : h.tellChange change = h.handOn change none h.timeout := by
      unfold tellChange
      rw [admin]
      rfl
    rw [process_of_tells tells, whole, Nat.zero_add]
    exact rest none rfl
  | environment answer found own asked inTime here =>
    rw [← Nat.min_eq_left inTime]
    apply process_of_own tells own asked
    intro outcome ended
    rw [if_pos inTime, here] at ended
    rw [ended]
    exact rest (some found) rfl

/-- The send of a located change has what is left of the time. -/
theorem process_of_heard (keeps : h.sender.KeepsToItself) (tells : Tells m change)
    (located : Locates h change question? id urlCode spent) {sourceType : SourceType}
    (heard : change.entityType.sourceType? = some sourceType) {event : NotificationEvent}
    (told : event = h.telling change id urlCode sourceType) :
    CarriesOut (h.process m)
      ⟨codeOfSend (if spent + (h.sender event).duration ≤ h.timeout then
          some (h.sender event).result else none), question?, some event,
        min (spent + (h.sender event).duration) h.timeout⟩ := by
  have early := located.spent_le
  have fits : spent + (h.sender event).duration ≤ h.timeout ↔
      (h.sender event).duration ≤ h.timeout - spent := by omega
  have takes : min (spent + (h.sender event).duration) h.timeout =
      spent + min (h.sender event).duration (h.timeout - spent) := by omega
  simp only [fits, takes]
  rw [← Timed.result_within]
  apply process_of_located tells located
  intro environment same
  exact handOn_heard keeps heard environment _ (by rw [same, told])

end Located

/-! ### The rows -/

/-- Every row of the table is what is done. -/
theorem Decides.carriesOut (keeps : h.sender.KeepsToItself) (decides : Decides h m d) :
    CarriesOut (h.process m) d := by
  cases decides with
  | unnamed nameless =>
    rw [process_of_nameless nameless]
    exact carriesOut_pure .badMessage
  | unreadable fault named garbled =>
    rw [process_of_unreadable garbled]
    exact carriesOut_pure .badMessage
  | overdueLookup change tells own late =>
    rw [← Nat.min_eq_right (Nat.le_of_lt late)]
    show CarriesOut (h.process m) ⟨_, _, _, _ + 0⟩
    apply process_of_own tells own rfl
    intro outcome ended
    rw [if_neg (Nat.not_le.2 late)] at ended
    rw [ended]
    exact carriesOut_pure .repeatable
  | noEnvironment change answer what tells own asked inTime gone =>
    rw [← Nat.min_eq_left inTime]
    show CarriesOut (h.process m) ⟨_, _, _, _ + 0⟩
    apply process_of_own tells own asked
    intro outcome ended
    rw [if_pos inTime, gone] at ended
    rw [ended]
    exact carriesOut_pure .badMessage
  | failedLookup change answer e tells own asked inTime failed other =>
    have repeats : e.isNotFound = false := by
      cases e with
      | notFound what => exact absurd rfl (other what)
      | _ => rfl
    rw [← Nat.min_eq_left inTime]
    show CarriesOut (h.process m) ⟨_, _, _, _ + 0⟩
    apply process_of_own tells own asked
    intro outcome ended
    rw [if_pos inTime, failed] at ended
    rw [ended]
    dsimp only
    rw [repeats]
    exact carriesOut_pure .repeatable
  | unheard change tells located nobody =>
    show CarriesOut (h.process m) ⟨_, _, _, _ + 0⟩
    apply process_of_located tells located
    intro environment _
    exact handOn_unheard nobody environment _
  | sent change sourceType event tells located heard told inTime success =>
    have decided := process_of_heard keeps tells located heard told
    rw [if_pos inTime, success, Nat.min_eq_left inTime] at decided
    exact decided
  | failedSend change sourceType event e tells located heard told inTime failure =>
    have decided := process_of_heard keeps tells located heard told
    rw [if_pos inTime, failure, Nat.min_eq_left inTime] at decided
    exact decided
  | overdueSend change sourceType event tells located heard told late =>
    have decided := process_of_heard keeps tells located heard told
    rw [if_neg (Nat.not_le.2 late), Nat.min_eq_right (Nat.le_of_lt late)] at decided
    exact decided

/-- Some row of the table is about the send of a located change. -/
theorem exists_decides_of_located (tells : Tells m change) {question? : Option String}
    {id urlCode : String} {spent : Nat} (located : Locates h change question? id urlCode spent) :
    ∃ d, Decides h m d := by
  cases kind : change.entityType.sourceType? with
  | none => exact ⟨_, .unheard change tells located kind⟩
  | some sourceType =>
    rcases Nat.lt_or_ge h.timeout
        (spent + (h.sender (h.telling change id urlCode sourceType)).duration) with late | inTime
    · exact ⟨_, .overdueSend change sourceType _ tells located kind rfl late⟩
    · cases outcome : (h.sender (h.telling change id urlCode sourceType)).result with
      | ok => exact ⟨_, .sent change sourceType _ tells located kind rfl inTime outcome⟩
      | error e => exact ⟨_, .failedSend change sourceType _ e tells located kind rfl inTime outcome⟩

/-- The table says something about every message. -/
theorem exists_decides (h : Handler) (m : BusMessage) : ∃ d, Decides h m d := by
  by_cases named : ∃ name, m.attributes.lookup idAttribute = some name ∧ name ≠ ""
  · cases reading : DomainEvent.codec.read (Text.symbolsOfBytes m.data) with
    | error fault => exact ⟨_, .unreadable fault named reading⟩
    | ok change =>
      have tells : Tells m change := ⟨named, reading⟩
      cases own : change.isAdminEvent with
      | true => exact exists_decides_of_located tells (.everywhere own)
      | false =>
        rcases Nat.lt_or_ge h.timeout (h.platform.lookup change.environmentNamespace).delay with
          late | inTime
        · exact ⟨_, .overdueLookup change tells own late⟩
        · cases found : (h.platform.lookup change.environmentNamespace).value with
          | ok environment =>
            exact exists_decides_of_located tells (.environment _ environment own rfl inTime found)
          | error e =>
            by_cases gone : ∃ what, e = .notFound what
            · obtain ⟨what, rfl⟩ := gone
              exact ⟨_, .noEnvironment change _ what tells own rfl inTime found⟩
            · exact ⟨_, .failedLookup change _ e tells own rfl inTime found
                fun what same => gone ⟨what, same⟩⟩
  · refine ⟨_, .unnamed fun name given => ?_⟩
    by_contra other
    exact named ⟨name, given, other⟩

end Deciding

/-! ## Handling -/

/-- How a message is handled about which something was decided: it is settled and counted once. -/
structure IsHandledAs (work : Work HandleCode) (m : BusMessage) (d : Decision) : Prop where
  code : work.result = d.code
  lasts : work.duration = d.elapsed
  asks : Effect.questions work.acts = d.question?.toList
  handsOn : Effect.events work.acts = d.event?.toList
  settles : Effect.settlements work.acts = [⟨m.id, decide (d.code ≠ .repeatable)⟩]
  counts : Effect.messageMetrics work.acts =
    [.messageReceived messageKind, .messageHandled messageKind d.code.label, .messageDuration]

/-- An attempt to handle a message from an instant on. -/
def attempt? (h : Handler) (now : Nat) (m : BusMessage) : Option (Work HandleCode) :=
  if h.hasDeadline now then some (h.handle m) else none

section Handling

variable {h : Handler} {m : BusMessage} {d : Decision}

/-- What is of no account in sending is found in the look-ups and in the event that is handed on. -/
theorem CarriesOut.filterMap {work : Work HandleCode} (carries : CarriesOut work d) {α : Type}
    {f : Effect → Option α} (sending : ∀ e, e.isOfSending = true → f e = none) :
    ∃ lookups, IsLookup lookups ∧ Effect.questions lookups = d.question?.toList ∧
      work.acts.filterMap f =
        lookups.filterMap f ++ (d.event?.toList.map Effect.submitted).filterMap f := by
  obtain ⟨lookups, sends, acts, quiet, asks, own⟩ := carries.acts
  refine ⟨lookups, quiet, asks, ?_⟩
  rw [acts, List.filterMap_append, List.filterMap_append,
    Effect.filterMap_of_isOfSending own sending, List.append_nil]

theorem CarriesOut.asks {work : Work HandleCode} (carries : CarriesOut work d) :
    Effect.questions work.acts = d.question?.toList := by
  obtain ⟨lookups, -, asks, same⟩ := carries.filterMap Effect.question?_of_isOfSending
  have silent : (d.event?.toList.map Effect.submitted).filterMap Effect.question? = [] := by
    cases d.event? <;> rfl
  rw [Effect.questions, same, silent, List.append_nil]
  exact asks

/-- Where look-ups are of no account either, only the event that is handed on is left. -/
theorem CarriesOut.filterMap_event {work : Work HandleCode} (carries : CarriesOut work d)
    {α : Type} {f : Effect → Option α} (sending : ∀ e, e.isOfSending = true → f e = none)
    (lookingUp : ∀ name, f (.lookingUp name) = none) (lookedUp : ∀ name, f (.lookedUp name) = none) :
    work.acts.filterMap f = (d.event?.toList.map Effect.submitted).filterMap f := by
  obtain ⟨lookups, quiet, -, same⟩ := carries.filterMap sending
  have silent : lookups.filterMap f = [] := by
    apply List.filterMap_eq_nil_iff.2
    intro e he
    obtain ⟨name, rfl | rfl⟩ := quiet e he
    · exact lookingUp name
    · exact lookedUp name
  rw [same, silent, List.nil_append]

theorem CarriesOut.handsOn {work : Work HandleCode} (carries : CarriesOut work d) :
    Effect.events work.acts = d.event?.toList := by
  refine (carries.filterMap_event ?_ (fun _ => rfl) (fun _ => rfl)).trans ?_
  · intro e own
    cases e with
    | submitted => cases own
    | _ => rfl
  · cases d.event? <;> rfl

theorem CarriesOut.counts {work : Work HandleCode} (carries : CarriesOut work d) :
    Effect.messageMetrics work.acts = [] := by
  refine (carries.filterMap_event Effect.messageMetric?_of_isOfSending (fun _ => rfl)
    (fun _ => rfl)).trans ?_
  cases d.event? <;> rfl

/-- What is done for a message comes between the counts of its beginning and its end. -/
theorem acts_handle (h : Handler) (m : BusMessage) :
    (h.handle m).acts = takenOn :: (h.process m).acts ++
      [.settled ⟨m.id, (h.process m).result.shouldAck⟩,
        .counted (.messageHandled messageKind (h.process m).result.label),
        .counted .messageDuration] := by
  simp [handle]

theorem duration_handle (h : Handler) (m : BusMessage) :
    (h.handle m).duration = (h.process m).duration := by
  simp [handle]

theorem shouldAck_eq (code : HandleCode) : code.shouldAck = decide (code ≠ .repeatable) := by
  cases code <;> rfl

/-- Handling a message does what is decided about it, and settles it once. -/
theorem Decides.isHandledAs (keeps : h.sender.KeepsToItself) (decides : Decides h m d) :
    IsHandledAs (h.handle m) m d := by
  have carries := decides.carriesOut keeps
  have silent : ∀ event settlement, .settled settlement ∉ (h.sender event).acts := by
    intro event settlement he
    cases keeps event _ he
  constructor
  · rw [result_handle]
    exact carries.code
  · rw [duration_handle]
    exact carries.lasts
  · have asks := carries.asks
    unfold Effect.questions at asks ⊢
    rw [acts_handle, List.filterMap_append, List.filterMap_cons, asks]
    exact List.append_nil _
  · have handsOn := carries.handsOn
    unfold Effect.events at handsOn ⊢
    rw [acts_handle, List.filterMap_append, List.filterMap_cons, handsOn]
    exact List.append_nil _
  · rw [settlements_handle silent, result_handle, carries.code, shouldAck_eq]
  · have counts := carries.counts
    unfold Effect.messageMetrics at counts ⊢
    rw [acts_handle, List.filterMap_append, List.filterMap_cons, counts, carries.code]
    rfl

/-- Work tells what was decided. -/
theorem IsHandledAs.unique {work : Work HandleCode} {other : Decision}
    (handled : IsHandledAs work m d) (handled' : IsHandledAs work m other) : d = other := by
  have toList_inj {α : Type} {a b : Option α} (same : a.toList = b.toList) : a = b := by
    cases a <;> cases b <;> simp_all
  have code := handled.code.symm.trans handled'.code
  have lasts := handled.lasts.symm.trans handled'.lasts
  have asks := toList_inj (handled.asks.symm.trans handled'.asks)
  have handsOn := toList_inj (handled.handsOn.symm.trans handled'.handsOn)
  cases d
  cases other
  simp_all

theorem Decides.unique (keeps : h.sender.KeepsToItself) {other : Decision}
    (decides : Decides h m d) (decides' : Decides h m other) : d = other :=
  (decides.isHandledAs keeps).unique (decides'.isHandledAs keeps)

/-- A run of the consumer that takes a message goes on with the attempt to handle it, and is cut off
where there is none. -/
theorem take?_of_attempt {c : Consumer} {i : Nat} {run : ConsumerRun} {s : Intake}
    (goesOn : c.isOver run = false) (received : c.intake.receive? run.run = some (m, s)) :
    let now := c.intake.now
    let taken : ConsumerRun :=
      { run with phase := .handling m now (now + (c.handler.handle m).duration) }
    let c' : Consumer := { c.setRun i taken with intake := s }
    c.take? i run =
      match c.handler.attempt? now m with
      | some _ => some c'
      | none => c'.cutOff? i taken [(now, takenOn)] := by
  intro now taken c'
  rw [Consumer.take_of_receive goesOn received]
  cases telling : c.handler.hasDeadline now with
  | true =>
    have attempted : c.handler.attempt? now m = some (c.handler.handle m) := if_pos telling
    rw [attempted]
    rfl
  | false =>
    have impossible : c.handler.attempt? now m = none := if_neg (Bool.eq_false_iff.1 telling)
    rw [impossible]
    rfl

/-- For every message there is one row of the table. An attempt to handle the message does what the
row says, settles it once and counts it once, if and only if a clock can tell the deadline. A run of
the consumer that takes the message goes on with this attempt, and is cut off where there is none. -/
theorem message_is_handled_by_table_iff (h : Handler) (keeps : h.sender.KeepsToItself)
    (m : BusMessage) (now : Nat) :
    ∃ d, (∀ other, Decides h m other ↔ other = d) ∧
      ((∃ work, h.attempt? now m = some work ∧ IsHandledAs work m d) ↔ h.hasDeadline now = true) ∧
      ∀ (c : Consumer) (i : Nat) (run : ConsumerRun) (s : Intake), c.handler = h →
        c.intake.now = now → c.isOver run = false → c.intake.receive? run.run = some (m, s) →
        let taken : ConsumerRun := { run with phase := .handling m now (now + (h.handle m).duration) }
        let c' : Consumer := { c.setRun i taken with intake := s }
        c.take? i run =
          match h.attempt? now m with
          | some _ => some c'
          | none => c'.cutOff? i taken [(now, takenOn)] := by
  obtain ⟨d, decides⟩ := exists_decides h m
  refine ⟨d, fun other => ⟨fun row => row.unique keeps decides, ?_⟩, ⟨?_, ?_⟩, ?_⟩
  · rintro rfl
    exact decides
  · rintro ⟨work, attempted, -⟩
    unfold attempt? at attempted
    split at attempted
    · assumption
    · cases attempted
  · intro telling
    refine ⟨h.handle m, ?_, decides.isHandledAs keeps⟩
    unfold attempt?
    rw [if_pos telling]
  · rintro c i run s rfl rfl goesOn received
    exact take?_of_attempt goesOn received

/-- A change of a tag in the environment of a namespace. -/
def changeIn (environmentNamespace : String) : BusMessage where
  id := "change"
  attributes := [(idAttribute, "change")]
  data := String.toUTF8
    ("\x7b\"id\":\"\",\"entity_type\":\"TAG\",\"entity_id\":\"\",\"type\":\"\"," ++
      "\"editor\":\x7b\"email\":\"\"\x7d,\"environment_namespace\":\"" ++ environmentNamespace ++
      "\"\x7d") |>.toList

/-- One environment that takes three seconds to find, with one subscription. -/
def distantEnvironment : World where
  environments := [("production", ⟨"env", "Production", "prod", "project", false⟩)]
  subscriptions :=
    [{ id := "subscription", environmentId := "env", sourceTypes := [.domainEvent .tag],
        recipient := .slack "channel" "en", enabled := true }]
  lookupDelay := 3000

/-- The intake of one worker that has put a message into the channel. -/
def pulled? (m : BusMessage) : Option Intake :=
  [.start, .work 0, .work 0, .work 0, .work 0, .work 0].foldlM Intake.step?
    (.ofLimits ⟨1, 1, 1000, 0⟩ { messages := [m], staysOpen := true })

/-- A look-up and a call of three seconds each do not fit into five: the send is cut off, at the
deadline that it shares with the look-up. So a run that takes the message handles it up to then. -/
theorem stages_share_one_deadline :
    let h := through distantEnvironment.platform [.failing "chat" [] [] 3000] 5000 "event"
    ∃ d, (∀ other, Decides h (changeIn "production") other ↔ other = d) ∧
      (∃ work, h.attempt? 0 (changeIn "production") = some work ∧
        IsHandledAs work (changeIn "production") d) ∧
      d.code = .nonRepeatable ∧ d.elapsed = 5000 ∧ d.question? = some "production" ∧
      d.event?.map (·.environmentId) = some "env" ∧
      ∃ (c : Consumer) (run : ConsumerRun) (s : Intake),
        pulled? (changeIn "production") = some c.intake ∧
        c.intake.receive? run.run = some (changeIn "production", s) ∧
        c.take? 0 run = some { c.setRun 0
          { run with phase := .handling (changeIn "production") 0 5000 } with intake := s } := by
  intro h
  obtain ⟨d, row, handled, taken⟩ := message_is_handled_by_table_iff h
    (Sender.overNotifiers_keepsToItself _ _) (changeIn "production") 0
  obtain ⟨work, attempted, done⟩ := handled.2 (by decide)
  refine ⟨d, row, ⟨work, attempted, done⟩, ?_⟩
  have same : h.handle (changeIn "production") = work := by
    unfold attempt? at attempted
    rw [if_pos (by decide)] at attempted
    exact Option.some.inj attempted
  subst same
  have asks : d.question? = some "production" :=
    Option.toList_eq_singleton_iff.1 (done.asks.symm.trans (by decide +kernel))
  have events : d.event?.map (·.environmentId) = some "env" := by
    apply Option.toList_eq_singleton_iff.1
    rw [Option.toList_map, ← done.handsOn]
    decide +kernel
  have lasts : (h.handle (changeIn "production")).duration = 5000 := by decide +kernel
  refine ⟨done.code.symm.trans (by decide +kernel), done.lasts.symm.trans lasts, asks, events, ?_⟩
  have given : (pulled? (changeIn "production")).bind (fun t =>
      (t.receive? 0).map fun x => (t.now, x.1)) = some (0, changeIn "production") := by
    decide +kernel
  obtain ⟨t, pulled, given⟩ := Option.bind_eq_some_iff.1 given
  obtain ⟨⟨m, s⟩, received, same⟩ := Option.map_eq_some_iff.1 given
  obtain ⟨now, rfl⟩ := Prod.mk.inj same
  let run : ConsumerRun := { run := 0, windowEnd := 50000 }
  let c : Consumer := { intake := t, handler := h, window := 50000, runs := [run] }
  have goesOn : c.isOver run = false := by simp [Consumer.isOver, c, run, now]
  have takes := taken c 0 run s rfl now goesOn received
  rw [attempted, lasts] at takes
  exact ⟨c, run, s, pulled, received, takes⟩

/-- A message without a name is to be dropped, but where the time limit is beyond the clock the
attempt to handle it ends the run. -/
theorem limit_beyond_clock_decides_nothing :
    let h := through ({} : World).platform [] (2 ^ 63 * 1000) "event"
    let m : BusMessage := ⟨"message", [], []⟩
    0 < h.timeout ∧ Decides h m { code := .badMessage } ∧ h.attempt? 0 m = none := by
  intro h m
  refine ⟨by decide, .unnamed ?_, by decide⟩
  intro name given
  cases given

end Handling

end Handler

end FlagAlerts
