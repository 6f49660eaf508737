import FlagAlerts.Consumer.Step

/-!
# The course of a consumer

A course is what happens to a consumer from its start on, in any order, together with a ledger of
what became of the messages. It allows more than the actions of prompt tasks do: a worker may go on
although its run is cancelled, as one does that looked just before; time may run past an instant
that somebody waits for; pulls may fail and the subscription may close at any time; and what stands
behind the handler may change at any time, so that messages may be handled with any result after any
delay.
-/

namespace FlagAlerts.Consumer

/-- Something that may happen to a consumer. -/
inductive Move where
  | act (a : Action)
  /-- A worker goes on with its task without another look at whether its run is cancelled. -/
  | overrun (worker : Nat)
  /-- Time goes by, whoever waits. -/
  | lag (ms : Nat)
  /-- The handler handles messages in another way from now on. -/
  | rehandle (handler : Handler)
  /-- From now on that many pulls fail, and whoever finds the queue empty waits or finds it closed. -/
  | turn (failures : Nat) (staysOpen : Bool)

/-- A worker goes on with its task, if it can. -/
def overrun? (c : Consumer) (worker : Nat) : Option Consumer := do
  let w ← c.intake.workers[worker]?
  let run ← c.intake.runs[w.run]?
  let intake ← c.intake.proceed worker w run
  return { c with intake := intake }

/-- The consumer after a move; none if the move is not possible. -/
def move? (c : Consumer) : Move → Option Consumer
  | .act a => c.step? a
  | .overrun worker => c.overrun? worker
  | .lag ms => some { c with intake := { c.intake with now := c.intake.now + ms } }
  | .rehandle handler => some { c with handler := handler }
  | .turn failures staysOpen =>
    let queue := { c.intake.queue with failures := failures, staysOpen := staysOpen }
    some { c with intake := { c.intake with queue := queue } }

/-- A worker that goes on with its task changes nothing but the intake. -/
theorem overrun_eq_some {c d : Consumer} {worker : Nat} (h : c.move? (.overrun worker) = some d) :
    ∃ w run t, c.intake.workers[worker]? = some w ∧ c.intake.runs[w.run]? = some run ∧
      c.intake.proceed worker w run = some t ∧ d = { c with intake := t } := by
  simp only [move?, overrun?, Option.bind_eq_bind, Option.bind_eq_some_iff, Option.pure_def,
    Option.some.injEq] at h
  obtain ⟨w, hw, run, hrun, t, next, rfl⟩ := h
  exact ⟨w, run, t, hw, hrun, next, rfl⟩

/-- Time changes nothing but the instant. -/
theorem pass_eq_some {c d : Consumer} {ms : Nat} (h : c.move? (.act (.pass ms)) = some d) :
    d = { c with intake := { c.intake with now := c.intake.now + ms } } := by
  simp only [move?, step?, Intake.pass?] at h
  split at h
  · split at h <;> cases h
    rfl
  · cases h

/-- What became of messages, for each run in the order in which it happened. -/
structure Ledger where
  /-- The messages that were added to the queue. -/
  arrived : List BusMessage := []
  /-- The messages that a run's workers pulled. -/
  pulled : List (Nat × BusMessage) := []
  /-- The messages that a run began to handle. -/
  begun : List (Nat × BusMessage) := []
  /-- The messages that a run handled, with the result. -/
  handled : List (Nat × BusMessage × HandleCode) := []
  /-- The settlements of a run's messages. -/
  settled : List (Nat × Settlement) := []

namespace Ledger

instance : Append Ledger where
  append a b := {
    arrived := a.arrived ++ b.arrived
    pulled := a.pulled ++ b.pulled
    begun := a.begun ++ b.begun
    handled := a.handled ++ b.handled
    settled := a.settled ++ b.settled }

/-- The entries of one run. -/
def ofRun {α : Type} (r : Nat) (entries : List (Nat × α)) : List α :=
  (entries.filter (·.1 == r)).map (·.2)

end Ledger

/-- The run that a move belongs to. -/
def owner? (c : Consumer) : Move → Option Nat
  | .act (.work worker) | .overrun worker => c.intake.workers[worker]?.map (·.run)
  | .act (.poll i) | .act (.abort i) => some i
  | _ => none

/-- The message that a run begins to handle with its next step. -/
def nextBegun? (c : Consumer) (i : Nat) : Option BusMessage := do
  let run ← c.runs[i]?
  match run.phase with
  | .waiting => if c.isOver run then none else (c.intake.receive? run.run).map (·.1)
  | _ => none

/-- The message that a run is done with at its next step, and how that was handled. -/
def nextHandled? (c : Consumer) (i : Nat) : Option (BusMessage × HandleCode) := do
  let run ← c.runs[i]?
  match run.phase with
  | .handling m .. => some (m, (c.handler.handle m).result)
  | _ => none

/-- What is to be entered for a move from one state to another: the messages that were added to the
queue or are no longer in it, and the settlements that were made. -/
def entry (c : Consumer) (mv : Move) (d : Consumer) : Ledger where
  arrived := d.intake.queue.messages.drop c.intake.queue.messages.length
  pulled := (c.owner? mv).toList.flatMap fun r =>
    (c.intake.queue.messages.take
      (c.intake.queue.messages.length - d.intake.queue.messages.length)).map (r, ·)
  begun := match mv with
    | .act (.poll i) => (c.nextBegun? i).toList.map (i, ·)
    | _ => []
  handled := match mv with
    | .act (.poll i) => (c.nextHandled? i).toList.map (i, ·)
    | _ => []
  settled := (c.owner? mv).toList.flatMap fun r =>
    (d.intake.settlements.drop c.intake.settlements.length).map (r, ·)

/-- A consumer whose intake was never started. -/
def idle (limits : Limits) (queue : BusQueue) (handler : Handler) (window : Nat) : Consumer where
  intake := .ofLimits limits queue
  handler := handler
  window := window

/-- What can come of a consumer, with the ledger up to then. -/
inductive Course (start : Consumer) : Ledger → Consumer → Prop where
  | initial : Course start {} start
  | move {ledger : Ledger} {c d : Consumer} (mv : Move) (before : Course start ledger c)
    (next : c.move? mv = some d) : Course start (ledger ++ c.entry mv d) d

/-- The ledger and the consumer after moves, one after another; none if one is not possible. -/
def follow? (l : Ledger) (c : Consumer) : List Move → Option (Ledger × Consumer)
  | [] => some (l, c)
  | mv :: rest => (c.move? mv).bind fun d => follow? (l ++ c.entry mv d) d rest

/-- A course goes on with moves that are possible. -/
theorem Course.follow {start c d : Consumer} {l k : Ledger} {moves : List Move}
    (course : Course start l c) (h : follow? l c moves = some (k, d)) : Course start k d := by
  induction moves generalizing l c with
  | nil =>
    cases h
    exact course
  | cons mv rest ih =>
    obtain ⟨next, moved, h⟩ := Option.bind_eq_some_iff.1 h
    exact ih (course.move mv moved) h

/-- Every state that prompt tasks can get a consumer into lies on a course. -/
theorem Reachable.course {start c : Consumer} (h : Reachable start c) :
    ∃ ledger, Course start ledger c := by
  induction h with
  | initial => exact ⟨{}, .initial⟩
  | step a _ next ih =>
    obtain ⟨ledger, course⟩ := ih
    exact ⟨_, course.move (.act a) next⟩

end FlagAlerts.Consumer
