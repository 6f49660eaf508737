import FlagAlerts.Proofs.Delivery.Calls
import FlagAlerts.Watch.Scan

/-!
# Visits of a scan

A visit comes to one of three ends: a store refuses its answer, there is nothing to tell, or there is
an event, which is handed on and may fail to be sent. Visits know nothing of each other, so a scan
does what its visits do, one after another, and its failures are theirs.
-/

namespace FlagAlerts

namespace Effect

@[simp] theorem events_append (a b : List Effect) : events (a ++ b) = events a ++ events b :=
  List.filterMap_append

@[simp] theorem usageRequests_append (a b : List Effect) :
    usageRequests (a ++ b) = usageRequests a ++ usageRequests b :=
  List.filterMap_append

theorem events_flatMap {α : Type} (as : List α) (f : α → List Effect) :
    events (as.flatMap f) = as.flatMap fun a => events (f a) :=
  List.filterMap_flatMap

theorem usageRequests_flatMap {α : Type} (as : List α) (f : α → List Effect) :
    usageRequests (as.flatMap f) = as.flatMap fun a => usageRequests (f a) :=
  List.filterMap_flatMap

theorem events_of_isOfSending {es : List Effect} (own : ∀ e ∈ es, e.isOfSending = true) :
    events es = [] := by
  apply filterMap_of_isOfSending own
  intro e own
  cases e with
  | submitted => cases own
  | _ => rfl

theorem usageRequests_of_isOfSending {es : List Effect} (own : ∀ e ∈ es, e.isOfSending = true) :
    usageRequests es = [] := by
  apply filterMap_of_isOfSending own
  intro e own
  cases e with
  | askedUsage => cases own
  | _ => rfl

end Effect

namespace Watch

/-! ## How a scan ends -/

/-- The failure of a visit, if it has one. -/
def failure? : Except ScanError Unit → Option ScanError
  | .ok () => none
  | .error e => some e

/-- The count of failures, and the last of them. -/
def tallyOf (failures : List ScanError) : Failures := ⟨failures.length, failures.getLast?⟩

theorem tallyOf_add (failures : List ScanError) (result : Except ScanError Unit) :
    (tallyOf failures).add result = tallyOf (failures ++ (failure? result).toList) := by
  cases result with
  | ok => simp [failure?, Failures.add]
  | error e => simp [failure?, Failures.add, tallyOf]

/-- How a scan ends whose visits failed like this, in order: well if none failed, with the failure of
the only one, and otherwise with the last failure, told along with the number of all. -/
structure EndsWith (failures : List ScanError) (result : Except ScanFailure Unit) : Prop where
  well : result = .ok () ↔ failures = []
  one : ∀ e, failures = [e] →
    ∃ failure, result = .error failure ∧ failure.error = e ∧
      failure.message = ": ".intercalate e.chain
  several : 2 ≤ failures.length →
    ∃ failure last, result = .error failure ∧ failures.getLast? = some last ∧
      failure.error = last ∧
      failure.message = ": ".intercalate
        ((Text.decimal failures.length ++ " environments failed") :: last.chain)

/-- The result of a scan with a failure. -/
theorem result_tallyOf_append (earlier : List ScanError) (last : ScanError) :
    (tallyOf (earlier ++ [last])).result = .error ⟨last, earlier.length + 1⟩ := by
  simp [tallyOf, Failures.result]

theorem endsWith_tallyOf (failures : List ScanError) :
    EndsWith failures (tallyOf failures).result := by
  rcases List.eq_nil_or_concat failures with rfl | ⟨earlier, last, rfl⟩
  · constructor
    · exact iff_of_true rfl rfl
    · intro e single
      cases single
    · intro many
      cases many
  · rw [List.concat_eq_append, result_tallyOf_append]
    constructor
    · simp
    · intro e single
      obtain ⟨rfl, rfl⟩ : earlier = [] ∧ last = e := by
        simpa [List.append_eq_singleton_iff] using single
      exact ⟨_, rfl, rfl, rfl⟩
    · intro many
      rw [List.length_append, List.length_singleton] at many
      have plural : earlier.length + 1 > 1 := by omega
      refine ⟨_, last, rfl, List.getLast?_concat, rfl, ?_⟩
      simp only [ScanFailure.message, plural, if_true, List.length_append, List.length_singleton,
        List.singleton_append]

/-! ## What a visit comes to -/

/-- What a visit comes to: an answer is refused, there is nothing to tell, or there is an event. -/
inductive Finding where
  | refused (e : ScanError)
  | nothing
  | found (event : NotificationEvent)

namespace Finding

/-- The event that is handed on. -/
def event? : Finding → Option NotificationEvent
  | .refused _ | .nothing => none
  | .found event => some event

/-- Why the visit fails, if it does: the answer was refused, or the event is not sent. -/
def failure? (s : Sender) (what : Report) : Finding → Option ScanError
  | .refused e => some e
  | .nothing => none
  | .found event =>
    match (s event).result with
    | .ok () => none
    | .error e => some (.send what event.environmentId e)

/-- What is done about it: the event is handed on and sent. -/
def traces (s : Sender) : Finding → List Effect
  | .refused _ | .nothing => []
  | .found event => .submitted event :: (s event).acts

theorem events_traces {s : Sender} (keeps : s.KeepsToItself) (finding : Finding) :
    Effect.events (finding.traces s) = finding.event?.toList := by
  cases finding with
  | refused | nothing => rfl
  | found event =>
    change event :: Effect.events (s event).acts = [event]
    rw [Effect.events_of_isOfSending (keeps event)]

theorem usageRequests_traces {s : Sender} (keeps : s.KeepsToItself) (finding : Finding) :
    Effect.usageRequests (finding.traces s) = [] := by
  cases finding with
  | refused | nothing => rfl
  | found event =>
    change Effect.usageRequests (s event).acts = []
    exact Effect.usageRequests_of_isOfSending (keeps event)

end Finding

/-- A visit asks the stores, comes to a finding, and does what is to be done about it. -/
structure ComesTo (s : Sender) (what : Report) (visit : Work (Except ScanError Unit))
    (asked : List Effect) (finding : Finding) : Prop where
  acts : visit.acts = asked ++ finding.traces s
  failure : failure? visit.result = finding.failure? s what

section Visits

variable {s : Sender} {what : Report} {α : Type}

theorem refused_comesTo (s : Sender) (what : Report) (e : ScanError) :
    ComesTo s what (pure (.error e)) [] (.refused e) :=
  ⟨rfl, rfl⟩

theorem nothing_comesTo (s : Sender) (what : Report) : ComesTo s what (pure (.ok ())) [] .nothing :=
  ⟨rfl, rfl⟩

/-- The answer of a store decides what a visit comes to. -/
theorem ComesTo.after {answer : Work α} {f : α → Work (Except ScanError Unit)} {finding : Finding}
    (decided : ComesTo s what (f answer.result) [] finding) :
    ComesTo s what (answer >>= f) answer.acts finding := by
  constructor
  · rw [Timed.acts_bind, decided.acts, List.nil_append]
  · rw [Timed.result_bind, decided.failure]

/-- Sending a report is all that is done about an event. -/
theorem report_comesTo (s : Sender) (what : Report) (event : NotificationEvent) :
    ComesTo s what (report s what event) [] (.found event) := by
  constructor
  · simp [report, Sender.submit, Finding.traces]
  · simp only [report, Sender.submit, Timed.result_bind, Timed.result_pure, Finding.failure?]
    cases (s event).result <;> rfl

/-- Things are visited one after another, whatever comes of it, and the failures are added up. -/
theorem visitAll_runs (visit : α → Work (Except ScanError Unit)) (as : List α)
    (earlier : List ScanError) :
    (visitAll visit as (tallyOf earlier)).acts = as.flatMap (fun a => (visit a).acts) ∧
      (visitAll visit as (tallyOf earlier)).result =
        tallyOf (earlier ++ as.filterMap fun a => failure? (visit a).result) := by
  induction as generalizing earlier with
  | nil =>
    constructor
    · rfl
    · exact congrArg tallyOf (List.append_nil _).symm
  | cons a rest ih =>
    have next := tallyOf_add earlier (visit a).result
    obtain ⟨acts, result⟩ := ih (earlier ++ (failure? (visit a).result).toList)
    constructor
    · rw [visitAll, Timed.acts_bind, next, acts, List.flatMap_cons]
    · rw [visitAll, Timed.result_bind, next, result, List.append_assoc, List.filterMap_cons]
      cases failure? (visit a).result <;> rfl

/-- A scan does what its visits do, in order, and its failures are theirs. -/
theorem visitAll_spec {visit : α → Work (Except ScanError Unit)} {asked : α → List Effect}
    {finding : α → Finding} (each : ∀ a, ComesTo s what (visit a) (asked a) (finding a))
    (as : List α) (earlier : List ScanError) :
    (visitAll visit as (tallyOf earlier)).acts =
        as.flatMap (fun a => asked a ++ (finding a).traces s) ∧
      (visitAll visit as (tallyOf earlier)).result =
        tallyOf (earlier ++ as.filterMap fun a => (finding a).failure? s what) := by
  have acts : (fun a => (visit a).acts) = fun a => asked a ++ (finding a).traces s :=
    funext fun a => (each a).acts
  have failures : (fun a => failure? (visit a).result) = fun a => (finding a).failure? s what :=
    funext fun a => (each a).failure
  rw [← acts, ← failures]
  exact visitAll_runs visit as earlier

/-- The events of a scan are those of its findings. -/
theorem events_visits {asked : α → List Effect} {finding : α → Finding} (keeps : s.KeepsToItself)
    (silent : ∀ a, Effect.events (asked a) = []) (as : List α) :
    Effect.events (as.flatMap fun a => asked a ++ (finding a).traces s) =
      as.filterMap fun a => (finding a).event? := by
  induction as with
  | nil => rfl
  | cons a rest ih =>
    rw [List.flatMap_cons, Effect.events_append, Effect.events_append, silent, ih,
      (finding a).events_traces keeps, List.filterMap_cons]
    cases (finding a).event? <;> rfl

end Visits

end Watch

end FlagAlerts
