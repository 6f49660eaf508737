import FlagAlerts.Proofs.Consumer.Closing
import FlagAlerts.Proofs.Consumer.Decision

/-!
# The window of a run

A run takes messages until it is cancelled or its window is over, whichever is first, and it returns no
later than the time limit of a message after that. Whatever other runs, workers and the queue do: a
message that was begun before is handled to its end, the workers leave, and then the run returns. Only
where a clock cannot tell the deadline of a message is the message not handled, and the run breaks.

What a run does is noted down as it happens. An invariant says what a diary of a run looks like and
how far time can have gone.
-/

namespace FlagAlerts

/-! ## How long a message is handled -/

namespace Handler

theorem duration_handOn_le (h : Handler) (change : DomainEvent) (environment : Option Environment)
    (timeLeft : Nat) : (h.handOn change environment timeLeft).duration ≤ timeLeft := by
  unfold handOn
  split
  · exact Nat.zero_le _
  next sourceType _ =>
    have cut := Timed.duration_within
      (Sender.submit h.sender (eventOf h.newId change environment sourceType)) timeLeft
    simp only [Timed.duration_bind, cut]
    -- the code takes no time any more
    split <;>
    · simp only [Timed.duration_pure]
      omega

theorem duration_tellChange_le (h : Handler) (change : DomainEvent) :
    (h.tellChange change).duration ≤ h.timeout := by
  unfold tellChange
  split
  · exact h.duration_handOn_le change none h.timeout
  · simp only [Timed.duration_bind, Timed.duration_within, Timed.result_within]
    -- what is left after the look-up is there only if the look-up was in time
    split
    next environment answered =>
      have rest := h.duration_handOn_le change (some environment)
        (h.timeout - (h.platform.lookUp change.environmentNamespace).duration)
      split at answered
      next inTime => omega
      next => cases answered
    all_goals
      simp only [Timed.duration_pure]
      omega

/-- Handling a message takes no longer than its time limit. -/
theorem duration_handle_le (h : Handler) (m : BusMessage) :
    (h.handle m).duration ≤ h.timeout := by
  rw [duration_handle, process]
  split
  · exact Nat.zero_le _
  · split
    next change _ => exact h.duration_tellChange_le change
    next => exact Nat.zero_le _

end Handler

namespace Consumer

/-! ## What is noted of a run -/

/-- Something that a run does or that is done to it. -/
inductive Note where
  | cancelled (now : Nat)
  /-- The run begins with a message. -/
  | begun (m : BusMessage) (now : Nat)
  /-- The run is to begin with a message and breaks at it. -/
  | broke (m : BusMessage) (now : Nat)
  /-- The run is done with its message: what was settled, and what was done, with the instants. -/
  | ended (now : Nat) (settled : List Settlement) (done : List (Nat × Effect))
  | returned (now : Nat)
  deriving DecidableEq

/-- What a step of a run is noted as. -/
def note? (c : Consumer) (i : Nat) (d : Consumer) : Option Note := do
  let before ← c.runs[i]?
  let after ← d.runs[i]?
  match before.phase, after.phase with
  | .waiting, .handling m .. => some (.begun m c.intake.now)
  | .waiting, .aborted => (c.nextBegun? i).map (.broke · c.intake.now)
  | .handling .., .waiting => some (.ended c.intake.now
      (d.intake.settlements.drop c.intake.settlements.length)
      (after.effects.drop before.effects.length))
  | .leaving, .finished => some (.returned c.intake.now)
  | _, _ => none

/-- What is noted of a run when something happens. -/
def notes (c : Consumer) (i : Nat) (mv : Move) (d : Consumer) : List Note :=
  match mv with
  | .act (.cancel r) => if r = i then [.cancelled c.intake.now] else []
  | .act (.poll r) => if r = i then (c.note? i d).toList else []
  | _ => []

/-- The instant of a cancellation. -/
def Note.cancelled? : Note → Option Nat
  | .cancelled now => some now
  | _ => none

/-- The instant at which a run was cancelled, if it was. -/
def firstCancel? (log : List Note) : Option Nat := log.findSome? Note.cancelled?

/-- The instant from which on a run takes no messages: its window is over, or it was cancelled. -/
def runEnd (windowEnd : Nat) (log : List Note) : Nat :=
  match firstCancel? log with
  | some x => min x windowEnd
  | none => windowEnd

/-- Whether something may happen while a run and its workers are prompt and nobody cuts the run off:
time goes by only when none of them can take a step. A worker may still go on that looked just before
its run was cancelled, and the queue may do what it likes. -/
def isPrompt (c : Consumer) (i : Nat) : Move → Bool
  | .act (.abort r) => r != i
  | .act (.pass _) => c.isQuietFor i
  | .lag _ | .rehandle _ => false
  | _ => true

/-- What can come of a consumer while a run and its workers are prompt, with what is noted of the run.
Other runs and their workers may be as slow as they like, and be cut off. -/
inductive Promptly (start : Consumer) (i : Nat) : List Note → Consumer → Prop where
  | started : Promptly start i [] start
  | move {log : List Note} {c d : Consumer} (mv : Move) (before : Promptly start i log c)
      (next : c.move? mv = some d) (prompt : c.isPrompt i mv = true) :
      Promptly start i (log ++ c.notes i mv d) d

/-- What is noted, and the consumer, after moves one after another; none if one is not possible or not
prompt. -/
def followPromptly? (i : Nat) (log : List Note) (c : Consumer) :
    List Move → Option (List Note × Consumer)
  | [] => some (log, c)
  | mv :: rest =>
    if c.isPrompt i mv then
      (c.move? mv).bind fun d => followPromptly? i (log ++ c.notes i mv d) d rest
    else none

/-! ## What a diary looks like -/

/-- Where a run stands when it comes to its messages. -/
inductive Stage where
  | idle
  | busy (m : BusMessage) (start : Nat)
  | returned
  | broken

/-- What is noted of a run, one thing after another. It begins with a message only as long as it is not
cancelled and its window is not over. What it has begun it ends after the time that the message takes,
with the result and the settlement of the message, cancelled or not; and it returns in time, when it
has ended all that it began. Only where a clock cannot tell the deadline of a message it breaks. -/
inductive Diary (h : Handler) (windowEnd : Nat) : Stage → List Note → Prop where
  | blank : Diary h windowEnd .idle []
  | cancelled {stage : Stage} {log : List Note} (now : Nat) (before : Diary h windowEnd stage log) :
      Diary h windowEnd stage (log ++ [.cancelled now])
  | begun {log : List Note} (m : BusMessage) (now : Nat) (before : Diary h windowEnd .idle log)
      (uncancelled : firstCancel? log = none) (early : now < windowEnd)
      (telling : h.hasDeadline now = true) :
      Diary h windowEnd (.busy m now) (log ++ [.begun m now])
  | broke {log : List Note} (m : BusMessage) (now : Nat) (before : Diary h windowEnd .idle log)
      (uncancelled : firstCancel? log = none) (early : now < windowEnd)
      (mute : h.hasDeadline now = false) :
      Diary h windowEnd .broken (log ++ [.broke m now])
  | ended {log : List Note} {m : BusMessage} {start : Nat}
      (before : Diary h windowEnd (.busy m start) log) :
      Diary h windowEnd .idle (log ++ [.ended (start + (h.handle m).duration)
        [⟨m.id, (h.handle m).result.shouldAck⟩] ((h.handle m).actsFrom start)])
  | returned {log : List Note} (now : Nat) (before : Diary h windowEnd .idle log)
      (inTime : now ≤ runEnd windowEnd log + h.timeout) :
      Diary h windowEnd .returned (log ++ [.returned now])

end Consumer

/-- Where a run stands when it comes to its messages. -/
def ConsumerPhase.stage : ConsumerPhase → Consumer.Stage
  | .waiting | .leaving => .idle
  | .handling m start _ => .busy m start
  | .finished => .returned
  | .aborted => .broken

/-- Whether a run has returned or broken. -/
def ConsumerPhase.hasEnded : ConsumerPhase → Bool
  | .finished | .aborted => true
  | _ => false

namespace Consumer

open Intake

/-- A run keeps to its window. -/
structure KeepsWindow (h : Handler) (windowEnd : Nat) (log : List Note) (c : Consumer) (i : Nat)
    (run : ConsumerRun) : Prop where
  present : c.runs[i]? = some run
  diary : Diary h windowEnd run.phase.stage log
  /-- It does not go on for longer than one message after its end. -/
  inTime : run.phase.hasEnded = false → c.intake.now ≤ runEnd windowEnd log + h.timeout
  /-- When it has returned its workers have left, and nothing comes of it any more. -/
  left : run.phase = .finished → IsOver c i run
  /-- It does not let time go by but for a message before its end, or for its handler. -/
  waits : c.isQuietFor i = true → run.phase.hasEnded = false →
    (run.phase = .waiting ∧ c.intake.now < runEnd windowEnd log) ∨
      ∃ m start, run.phase = .handling m start (start + (h.handle m).duration) ∧
        c.intake.now < start + (h.handle m).duration
  /-- From its end on, and when it is done with its message, it returns at once if it and its workers
  take their steps. -/
  returns : runEnd windowEnd log ≤ c.intake.now → run.phase ≠ .aborted →
    (∀ m start finish, run.phase = .handling m start finish → finish ≤ c.intake.now) →
      ∃ d run', OwnSteps i c d ∧ d.intake.now = c.intake.now ∧ d.runs[i]? = some run' ∧
        run'.phase = .finished

/-! ## The invariant -/

/-- A run began with its message before its end, and is not past the end of the message. -/
structure Handles (h : Handler) (windowEnd : Nat) (log : List Note) (now : Nat) (m : BusMessage)
    (start finish : Nat) : Prop where
  lasts : finish = start + (h.handle m).duration
  early : start ≤ runEnd windowEnd log
  begun : start ≤ now
  unpast : now ≤ finish

/-- What holds of a run and its notes as long as the run and its workers are prompt. -/
structure Punctual (h : Handler) (windowEnd : Nat) (log : List Note) (c : Consumer) (i : Nat)
    (run : ConsumerRun) : Prop where
  present : c.runs[i]? = some run
  handler : c.handler = h
  window : run.windowEnd = windowEnd
  cancelled : run.isCancelled = (firstCancel? log).isSome
  past : ∀ x, firstCancel? log = some x → x ≤ c.intake.now
  diary : Diary h windowEnd run.phase.stage log
  inTime : run.phase.hasEnded = false → c.intake.now ≤ runEnd windowEnd log + h.timeout
  handles : ∀ m start finish, run.phase = .handling m start finish →
    Handles h windowEnd log c.intake.now m start finish

section Notes

variable {log : List Note} {windowEnd now : Nat}

theorem firstCancel?_append (log : List Note) {n : Note} (other : n.cancelled? = none) :
    firstCancel? (log ++ [n]) = firstCancel? log := by
  simp [firstCancel?, List.findSome?_append, other]

theorem firstCancel?_cancelled (log : List Note) (now : Nat) :
    firstCancel? (log ++ [.cancelled now]) = some ((firstCancel? log).getD now) := by
  rw [firstCancel?, List.findSome?_append]
  cases h : firstCancel? log <;> rw [firstCancel?] at h <;> simp [h, Note.cancelled?]

theorem runEnd_append (log : List Note) {n : Note} (other : n.cancelled? = none) :
    runEnd windowEnd (log ++ [n]) = runEnd windowEnd log := by
  rw [runEnd, firstCancel?_append log other, runEnd]

/-- A cancellation puts the end to now, if it was not before. -/
theorem runEnd_cancelled (past : ∀ x, firstCancel? log = some x → x ≤ now) :
    runEnd windowEnd (log ++ [.cancelled now]) = min (runEnd windowEnd log) now := by
  rw [runEnd, firstCancel?_cancelled, runEnd]
  cases first : firstCancel? log with
  | none => exact Nat.min_comm now windowEnd
  | some x =>
    have before := past x first
    simp only [Option.getD_some]
    omega

end Notes

section Steps

variable {limits : Limits} {queue : BusQueue} {handler h : Handler} {window windowEnd i : Nat}
  {l : Ledger} {log : List Note} {c d : Consumer} {run run' : ConsumerRun} {a : Action}

/-- A run takes no messages any more exactly from its end on. -/
theorem Punctual.isOver_iff (punctual : Punctual h windowEnd log c i run) :
    c.isOver run = true ↔ runEnd windowEnd log ≤ c.intake.now := by
  rw [isOver, Bool.or_eq_true, decide_eq_true_eq, punctual.cancelled, punctual.window, runEnd]
  cases first : firstCancel? log with
  | none => simp
  | some x =>
    have before := punctual.past x first
    simp only [Option.isSome_some, true_or, true_iff]
    omega

/-- A run that is not over was not cancelled, and its window is not over. -/
theorem Punctual.of_goesOn (punctual : Punctual h windowEnd log c i run)
    (goesOn : c.isOver run = false) : firstCancel? log = none ∧ c.intake.now < windowEnd := by
  have before := punctual.cancelled
  have window := punctual.window
  rw [isOver, Bool.or_eq_false_iff, decide_eq_false_iff_not, Nat.not_le] at goesOn
  rw [goesOn.1] at before
  exact ⟨by simpa using before.symm, window ▸ goesOn.2⟩

/-- A run that nothing happens to stays punctual as long as no time goes by. -/
theorem Punctual.of_same (punctual : Punctual h windowEnd log c i run)
    (present : d.runs[i]? = some run) (handler : d.handler = c.handler)
    (now : d.intake.now = c.intake.now) : Punctual h windowEnd log d i run where
  present := present
  handler := handler.trans punctual.handler
  window := punctual.window
  cancelled := punctual.cancelled
  past := by
    rw [now]
    exact punctual.past
  diary := punctual.diary
  inTime := by
    rw [now]
    exact punctual.inTime
  handles := by
    rw [now]
    exact punctual.handles

/-- A run that takes a step stays punctual if it notes what belongs to its next phase. -/
theorem Punctual.of_poll (punctual : Punctual h windowEnd log c i run) (new : List Note)
    (next : c.poll? i = some d) (present : d.runs[i]? = some run')
    (noted : (c.note? i d).toList = new)
    (fields : run'.windowEnd = run.windowEnd ∧ run'.isCancelled = run.isCancelled)
    (uncancelled : firstCancel? (log ++ new) = firstCancel? log)
    (diary : Diary h windowEnd run'.phase.stage (log ++ new))
    (live : run'.phase.hasEnded = false → run.phase.hasEnded = false)
    (handles : ∀ m start finish, run'.phase = .handling m start finish →
      Handles h windowEnd (log ++ new) c.intake.now m start finish) :
    ∃ run', Punctual h windowEnd (log ++ (c.note? i d).toList) d i run' := by
  obtain ⟨clock, handler⟩ := poll_clock next
  have end_ : runEnd windowEnd (log ++ new) = runEnd windowEnd log := by
    rw [runEnd, uncancelled, runEnd]
  rw [noted]
  exact ⟨run', {
    present := present
    handler := handler.trans punctual.handler
    window := fields.1.trans punctual.window
    cancelled := by rw [uncancelled, fields.2, punctual.cancelled]
    past := by
      rw [uncancelled, clock.now]
      exact punctual.past
    diary := diary
    inTime := by
      rw [end_, clock.now]
      exact fun going => punctual.inTime (live going)
    handles := by
      rw [clock.now]
      exact handles }⟩

/-- A run that leaves notes nothing. -/
theorem Punctual.leave (punctual : Punctual h windowEnd log c i run)
    (waits : run.phase = .waiting) (next : c.poll? i = some (c.leave i run)) :
    ∃ run', Punctual h windowEnd (log ++ (c.note? i (c.leave i run)).toList) (c.leave i run) i
      run' := by
  obtain ⟨bound, -⟩ := List.getElem?_eq_some_iff.1 punctual.present
  have after : (c.leave i run).runs[i]? = some { run with phase := .leaving } :=
    List.getElem?_set_self bound
  refine punctual.of_poll [] next after ?_ ⟨rfl, rfl⟩ (by rw [List.append_nil]) ?_ ?_ ?_
  · simp [note?, punctual.present, after]
  · have diary := punctual.diary
    rw [waits] at diary
    rw [List.append_nil]
    exact diary
  · simp [waits, ConsumerPhase.hasEnded]
  · simp

/-- A run that takes a message on notes so, and one that breaks at it as well. -/
theorem Punctual.receive {m : BusMessage} {s : Intake}
    (punctual : Punctual h windowEnd log c i run) (waits : run.phase = .waiting)
    (goesOn : c.isOver run = false) (received : c.intake.receive? run.run = some (m, s))
    (next : c.poll? i = some d) :
    ∃ run', Punctual h windowEnd (log ++ (c.note? i d).toList) d i run' := by
  obtain ⟨bound, -⟩ := List.getElem?_eq_some_iff.1 punctual.present
  obtain ⟨uncancelled, early⟩ := punctual.of_goesOn goesOn
  have diary := punctual.diary
  rw [waits] at diary
  have moved : c.take? i run = some d := by simpa [poll?, punctual.present, waits] using next
  rw [take_of_receive goesOn received, punctual.handler] at moved
  cases telling : h.hasDeadline c.intake.now with
  | true =>
    rw [telling] at moved
    have after : d.runs[i]? = some { run with
        phase := .handling m c.intake.now (c.intake.now + (h.handle m).duration) } := by
      obtain rfl := Option.some.inj moved
      exact List.getElem?_set_self bound
    refine punctual.of_poll [.begun m c.intake.now] next after ?_ ⟨rfl, rfl⟩
      (firstCancel?_append log rfl) (.begun m c.intake.now diary uncancelled early telling) ?_ ?_
    · simp [note?, punctual.present, after, waits]
    · simp [waits, ConsumerPhase.hasEnded]
    · intro m' start finish handles
      obtain ⟨rfl, rfl, rfl⟩ : m = m' ∧ c.intake.now = start ∧
          c.intake.now + (h.handle m).duration = finish := by simpa using handles
      refine ⟨rfl, ?_, Nat.le_refl _, Nat.le_add_right _ _⟩
      rw [runEnd_append log rfl, runEnd, uncancelled]
      exact Nat.le_of_lt early
  | false =>
    simp only [telling, Bool.false_eq_true, if_false] at moved
    have begun : c.nextBegun? i = some m := by
      simp [nextBegun?, punctual.present, waits, goesOn, received]
    obtain ⟨s', -, -, -, -, cut⟩ := cutOff_eq_some moved
    have after : d.runs[i]? = some { run with
        phase := .aborted
        effects := run.effects ++ [(c.intake.now, Handler.takenOn)] } := by
      subst cut
      exact List.getElem?_set_self (by simpa [setRun] using bound)
    refine punctual.of_poll [.broke m c.intake.now] next after ?_ ⟨rfl, rfl⟩
      (firstCancel?_append log rfl) (.broke m c.intake.now diary uncancelled early telling) ?_ ?_
    · simp [note?, punctual.present, after, waits, begun]
    · simp [ConsumerPhase.hasEnded]
    · simp

/-- A run that takes a step stays punctual. -/
theorem Punctual.poll (punctual : Punctual h windowEnd log c i run) (next : c.poll? i = some d) :
    ∃ run', Punctual h windowEnd (log ++ (c.note? i d).toList) d i run' := by
  obtain ⟨bound, -⟩ := List.getElem?_eq_some_iff.1 punctual.present
  have diary := punctual.diary
  obtain ⟨run', hrun, polled⟩ := poll_eq_some next
  obtain rfl : run = run' := Option.some.inj (punctual.present.symm.trans hrun)
  cases polled with
  | left waits ends result =>
    subst result
    exact punctual.leave waits next
  | took waits goesOn received => exact punctual.receive waits goesOn received next
  | broke waits goesOn received => exact punctual.receive waits goesOn received next
  | @settled m start finish s handles held result =>
    obtain ⟨lasts, -, -, unpast⟩ := punctual.handles m start finish handles
    have due : finish ≤ c.intake.now := by
      by_contra early
      simp [poll?, hrun, handles, early] at next
    obtain rfl : c.intake.now = finish := Nat.le_antisymm unpast due
    have settlements := (settleHeld_frame held).2.2.2
    rw [handles] at diary
    subst result
    have after : ∀ last : ConsumerRun, (c.runs.set i last)[i]? = some last :=
      fun last => List.getElem?_set_self bound
    refine punctual.of_poll
      [.ended (start + (h.handle m).duration) [⟨m.id, (h.handle m).result.shouldAck⟩]
        ((h.handle m).actsFrom start)] next (after _) ?_ ⟨rfl, rfl⟩ (firstCancel?_append log rfl)
      (.ended diary) ?_ ?_
    · simp [note?, hrun, setRun, after, handles, settlements, punctual.handler, lasts]
    · simp [handles, ConsumerPhase.hasEnded]
    · simp
  | finished leaves deserted result =>
    subst result
    have after : (c.runs.set i { run with phase := .finished })[i]? = _ :=
      List.getElem?_set_self bound
    rw [leaves] at diary
    have inTime := punctual.inTime (by rw [leaves]; rfl)
    refine punctual.of_poll [.returned c.intake.now] next after ?_ ⟨rfl, rfl⟩
      (firstCancel?_append log rfl) (.returned c.intake.now diary inTime) ?_ ?_
    · simp [note?, hrun, setRun, after, leaves]
    · simp [ConsumerPhase.hasEnded]
    · simp

/-- A run that is cancelled stays punctual. -/
theorem Punctual.cancel (punctual : Punctual h windowEnd log c i run) :
    ∃ run', Punctual h windowEnd (log ++ [.cancelled c.intake.now]) (c.cancel i) i run' := by
  have end_ : runEnd windowEnd (log ++ [.cancelled c.intake.now]) = _ :=
    runEnd_cancelled punctual.past
  refine ⟨{ run with isCancelled := true }, ?_, punctual.handler, punctual.window, ?_, ?_,
    .cancelled _ punctual.diary, ?_, ?_⟩
  · rw [Consumer.cancel, List.getElem?_modify_eq, punctual.present]
    rfl
  · rw [firstCancel?_cancelled]
    rfl
  · rw [firstCancel?_cancelled]
    intro x first
    obtain rfl := Option.some.inj first
    cases before : firstCancel? log with
    | none => exact Nat.le_refl _
    | some y => exact punctual.past y before
  · intro going
    have inTime := punctual.inTime going
    rw [end_]
    show c.intake.now ≤ _
    omega
  · intro m start finish handles
    obtain ⟨lasts, early, begun, unpast⟩ := punctual.handles m start finish handles
    refine ⟨lasts, ?_, begun, unpast⟩
    rw [end_]
    exact Nat.le_min.2 ⟨early, begun⟩

/-- A run that is quiet stays punctual while time goes by. -/
theorem Punctual.pass {ms : Nat} (punctual : Punctual h windowEnd log c i run)
    (course : Course (idle limits queue handler window) l c) (quiet : c.isQuietFor i = true)
    (next : c.step? (.pass ms) = some d) : Punctual h windowEnd log d i run := by
  obtain rfl := pass_eq_some next
  have wakes : ∀ t ∈ c.wakeTimes, c.intake.now + ms ≤ t := by
    simp only [step?] at next
    split at next
    next inTime => simpa using inTime
    next => cases next
  have member := List.mem_of_getElem? punctual.present
  -- it waits for its window, or for its handler
  have waiting : run.phase = .waiting → c.intake.now + ms ≤ windowEnd := fun phase =>
    punctual.window ▸ wakes run.windowEnd (List.mem_filterMap.2 ⟨run, member, by rw [phase]⟩)
  have handling : ∀ m start finish, run.phase = .handling m start finish →
      c.intake.now + ms ≤ finish := fun m start finish phase =>
    wakes finish (List.mem_filterMap.2 ⟨run, member, by rw [phase]⟩)
  refine ⟨punctual.present, punctual.handler, punctual.window, punctual.cancelled, ?_,
    punctual.diary, ?_, ?_⟩
  · intro x first
    exact Nat.le_trans (punctual.past x first) (Nat.le_add_right _ _)
  · intro going
    show c.intake.now + ms ≤ _
    rcases waits_of_quiet course punctual.present quiet with
      phase | phase | ⟨phase, goesOn⟩ | ⟨m, start, finish, phase, -⟩
    · simp [phase, ConsumerPhase.hasEnded] at going
    · simp [phase, ConsumerPhase.hasEnded] at going
    · obtain ⟨uncancelled, -⟩ := punctual.of_goesOn goesOn
      rw [runEnd, uncancelled]
      exact Nat.le_trans (waiting phase) (Nat.le_add_right _ _)
    · obtain ⟨lasts, early, -, -⟩ := punctual.handles m start finish phase
      have short := h.duration_handle_le m
      have due := handling m start finish phase
      omega
  · intro m start finish phase
    obtain ⟨lasts, early, begun, -⟩ := punctual.handles m start finish phase
    exact ⟨lasts, early, Nat.le_trans begun (Nat.le_add_right _ _), handling m start finish phase⟩

/-- What happens to others leaves a run as it is. -/
theorem run_of_other {queued : List BusMessage} (kept : Kept queued l c)
    (hrun : c.runs[i]? = some run) (h : c.step? a = some d) (polled : a ≠ .poll i)
    (cancelled : a ≠ .cancel i) (aborted : a ≠ .abort i) : d.runs[i]? = some run := by
  cases a with
  | push attributes data | failPull =>
    cases h
    exact hrun
  | start =>
    cases h
    obtain ⟨bound, -⟩ := List.getElem?_eq_some_iff.1 hrun
    exact (List.getElem?_append_left bound).trans hrun
  | cancel r =>
    cases h
    have other : r ≠ i := fun same => cancelled (congrArg _ same)
    rw [Consumer.cancel, List.getElem?_modify_ne _ _ other, hrun]
  | abort r =>
    have other : r ≠ i := fun same => aborted (congrArg _ same)
    obtain ⟨run', done, -, next⟩ := abort_eq_some h
    obtain ⟨s, -, -, -, -, rfl⟩ := cutOff_eq_some next
    exact (List.getElem?_set_ne other).trans hrun
  | poll r =>
    have other : r ≠ i := fun same => polled (congrArg _ same)
    obtain ⟨run', hrun', moved⟩ := poll_eq_some h
    obtain ⟨-, after, runs⟩ := moved.frame kept hrun'
    rw [runs, List.getElem?_set_ne other, hrun]
  | work j =>
    obtain ⟨t, -, rfl⟩ := Option.map_eq_some_iff.1 h
    exact hrun
  | pass ms =>
    obtain rfl := pass_eq_some h
    exact hrun

/-- Whatever happens, a run stays punctual as long as it and its workers are prompt. -/
theorem Punctual.move {mv : Move} (punctual : Punctual h windowEnd log c i run)
    (course : Course (idle limits queue handler window) l c) (next : c.move? mv = some d)
    (prompt : c.isPrompt i mv = true) :
    ∃ run', Punctual h windowEnd (log ++ c.notes i mv d) d i run' := by
  have unnoted (still : Punctual h windowEnd log d i run) (quiet : c.notes i mv d = []) :
      ∃ run', Punctual h windowEnd (log ++ c.notes i mv d) d i run' := by
    rw [quiet, List.append_nil]
    exact ⟨run, still⟩
  cases mv with
  | lag | rehandle => cases prompt
  | turn failures staysOpen =>
    cases next
    exact unnoted (punctual.of_same punctual.present rfl rfl) rfl
  | overrun worker =>
    obtain ⟨w, own, t, hw, hown, proceeds, rfl⟩ := overrun_eq_some next
    exact unnoted (punctual.of_same punctual.present rfl (proceed_turn hw proceeds).2.now) rfl
  | act a =>
    have other (polled : a ≠ .poll i) (cancelled : a ≠ .cancel i) (aborted : a ≠ .abort i)
        (timeless : ∀ ms, a ≠ .pass ms) : Punctual h windowEnd log d i run := by
      obtain ⟨now, handler⟩ := step_clock next timeless
      have present := run_of_other course.kept punctual.present next polled cancelled aborted
      exact punctual.of_same present handler now
    cases a with
    | cancel r =>
      by_cases same : r = i
      · subst same
        cases next
        have noted : c.notes r (.act (.cancel r)) (c.cancel r) = [.cancelled c.intake.now] :=
          if_pos rfl
        rw [noted]
        exact punctual.cancel
      · exact unnoted (other (by simp) (by simp [same]) (by simp) (by simp)) (if_neg same)
    | poll r =>
      by_cases same : r = i
      · subst same
        have noted : c.notes r (.act (.poll r)) d = (c.note? r d).toList := if_pos rfl
        rw [noted]
        exact punctual.poll next
      · exact unnoted (other (by simp [same]) (by simp) (by simp) (by simp)) (if_neg same)
    | abort r =>
      have spared : r ≠ i := by simpa [isPrompt] using prompt
      exact unnoted (other (by simp) (by simp) (by simp [spared]) (by simp)) rfl
    | pass ms => exact unnoted (punctual.pass course prompt next) rfl
    | push | failPull | start | work =>
      exact unnoted (other (by simp) (by simp) (by simp) (by simp)) rfl

/-- A run that has just begun is punctual. -/
theorem punctual_start (c : Consumer) :
    ∃ run, Punctual c.handler (c.intake.now + c.window) [] c.start c.runs.length run := by
  refine ⟨_, List.getElem?_concat_length, rfl, rfl, rfl, by simp [firstCancel?], .blank, ?_, by simp⟩
  intro _
  show c.intake.now ≤ c.intake.now + c.window + c.handler.timeout
  omega

/-- A run that is punctual keeps to its window. -/
theorem Punctual.keepsWindow (punctual : Punctual h windowEnd log c i run)
    (course : Course (idle limits queue handler window) l c) :
    KeepsWindow h windowEnd log c i run where
  present := punctual.present
  diary := punctual.diary
  inTime := punctual.inTime
  left := by
    intro finished
    have kept := course.kept.each i run punctual.present
    exact ⟨punctual.present, .inr (.inl finished), kept.deserted finished, kept.shut (.inr finished)⟩
  waits := by
    intro quiet going
    rcases waits_of_quiet course punctual.present quiet with
      phase | phase | ⟨phase, goesOn⟩ | ⟨m, start, finish, phase, early⟩
    · simp [phase, ConsumerPhase.hasEnded] at going
    · simp [phase, ConsumerPhase.hasEnded] at going
    · refine .inl ⟨phase, Nat.lt_of_not_le fun late => ?_⟩
      rw [punctual.isOver_iff.2 late] at goesOn
      cases goesOn
    · obtain ⟨rfl, -, -, -⟩ := punctual.handles m start finish phase
      exact .inr ⟨m, start, phase, early⟩
  returns := by
    intro late going due
    obtain ⟨d, run', steps, present, finished⟩ :=
      finishes_of_over course punctual.present (punctual.isOver_iff.2 late) going due
    exact ⟨d, run', steps, steps.now_eq, present, finished⟩

end Steps

section Courses

variable {limits : Limits} {queue : BusQueue} {handler : Handler} {window : Nat} {l : Ledger}
  {log : List Note} {c₀ c : Consumer}

/-- Moves that are possible and prompt lead on. -/
theorem Promptly.follow {start d : Consumer} {i : Nat} {log' : List Note} {moves : List Move}
    (goes : Promptly start i log c) (h : followPromptly? i log c moves = some (log', d)) :
    Promptly start i log' d := by
  induction moves generalizing log c with
  | nil =>
    cases h
    exact goes
  | cons mv rest ih =>
    rw [followPromptly?] at h
    split at h
    next prompt =>
      obtain ⟨e, next, h⟩ := Option.bind_eq_some_iff.1 h
      exact ih (goes.move mv next prompt) h
    next => cases h

/-- What a run does promptly lies on a course, and the run is punctual all along. -/
theorem Promptly.punctual (course : Course (idle limits queue handler window) l c₀)
    (goes : Promptly c₀.start c₀.runs.length log c) :
    (∃ k, Course (idle limits queue handler window) k c) ∧
      ∃ run, Punctual c₀.handler (c₀.intake.now + c₀.window) log c c₀.runs.length run := by
  induction goes with
  | started => exact ⟨⟨_, course.move (.act .start) rfl⟩, punctual_start c₀⟩
  | move mv before next prompt ih =>
    obtain ⟨⟨k, course⟩, run, punctual⟩ := ih
    exact ⟨⟨_, course.move mv next⟩, punctual.move course next prompt⟩

/-- Whenever a run is started, whatever the queue, the workers and the other runs do, and whenever it
is cancelled: the run keeps to its window. -/
theorem run_keeps_to_its_window (course : Course (idle limits queue handler window) l c₀)
    (goes : Promptly c₀.start c₀.runs.length log c) :
    ∃ run, KeepsWindow c₀.handler (c₀.intake.now + c₀.window) log c c₀.runs.length run := by
  obtain ⟨⟨k, course⟩, run, punctual⟩ := goes.punctual course
  exact ⟨run, punctual.keepsWindow course⟩

end Courses

/-- The run begins with the first message and is cancelled a second later, with a worker that waits for
a message and the second message in the channel. -/
def cancelledMoves : List Move :=
  List.replicate 5 (.act (.work 0)) ++ [.act (.poll 0)] ++ List.replicate 7 (.act (.work 0)) ++
    [.act (.pass 1000), .act (.cancel 0), .act (.pass 4000), .act (.poll 0), .act (.poll 0),
      .act (.work 0), .act (.poll 0)]

/-- The message takes five seconds. The run is cancelled meanwhile, ends the message nevertheless,
returns at once, well within the ten seconds that a message may take, and hands back the other one. -/
theorem cancelled_run_ends_its_message :
    let first := announcement "first"
    ∃ log c run, Course slow {} slow ∧ Promptly slow.start slow.runs.length log c ∧
      log = [.begun first 0, .cancelled 1000,
        .ended 5000 [⟨"first", true⟩] ((slow.handler.handle first).actsFrom 0), .returned 5000] ∧
      c.intake.settlements = [⟨"first", true⟩, ⟨"second", false⟩] ∧
      run.phase = .finished ∧ KeepsWindow slow.handler 60000 log c 0 run := by
  intro first
  have outcome : (followPromptly? 0 [] slow.start cancelledMoves).map (fun x =>
      (x.1, x.2.intake.settlements, x.2.runs[0]?.map (·.phase))) =
        some ([.begun first 0, .cancelled 1000,
          .ended 5000 [⟨"first", true⟩] ((slow.handler.handle first).actsFrom 0), .returned 5000],
          [⟨"first", true⟩, ⟨"second", false⟩], some .finished) := by
    decide +kernel
  obtain ⟨⟨log, c⟩, followed, outcome⟩ := Option.map_eq_some_iff.1 outcome
  obtain ⟨noted, outcome⟩ := Prod.mk.inj outcome
  obtain ⟨settlements, phase⟩ := Prod.mk.inj outcome
  have goes : Promptly slow.start slow.runs.length log c := Promptly.started.follow followed
  obtain ⟨run, keeps⟩ := run_keeps_to_its_window (.initial : Course slow {} slow) goes
  have present : c.runs[0]? = some run := keeps.present
  rw [present] at phase
  exact ⟨log, c, run, .initial, goes, noted, settlements, Option.some.inj phase, keeps⟩

/-- A consumer with one worker, one message, and a time limit that no clock can tell. -/
def boundless : Consumer :=
  idle ⟨1, 3, 1000, 0⟩ { messages := [announcement "first"], staysOpen := true }
    { platform := World.platform {}, sender := Sender.failing [] 5000, timeout := 2 ^ 63 * 1000,
      newId := "" }
    60000

/-- The run begins with the message, and its worker waits for another one. -/
def boundlessMoves : List Move :=
  List.replicate 5 (.act (.work 0)) ++ [.act (.poll 0)] ++ List.replicate 2 (.act (.work 0))

/-- The run is not cancelled and its window is not over, but the message that it begins with is not
handled to its end: it is handed back, though its handling would end with a receipt. The run never
returns, and its worker, which nobody tells to leave, waits for a message. -/
theorem boundless_run_breaks_at_its_message :
    let first := announcement "first"
    ∃ log c run, Course boundless {} boundless ∧
      Promptly boundless.start boundless.runs.length log c ∧ log = [.broke first 0] ∧
      (boundless.handler.handle first).result.shouldAck = true ∧
      c.intake.settlements = [⟨"first", false⟩] ∧ c.runs[0]? = some run ∧ run.phase = .aborted ∧
      c.isQuietFor 0 = true ∧ c.intake.isDeserted 0 = false := by
  intro first
  have outcome : (followPromptly? 0 [] boundless.start boundlessMoves).map (fun x =>
      (x.1, x.2.intake.settlements, x.2.runs[0]?.map (·.phase), x.2.isQuietFor 0,
        x.2.intake.isDeserted 0)) =
        some ([.broke first 0], [⟨"first", false⟩], some .aborted, true, false) := by
    decide +kernel
  obtain ⟨⟨log, c⟩, followed, outcome⟩ := Option.map_eq_some_iff.1 outcome
  obtain ⟨noted, outcome⟩ := Prod.mk.inj outcome
  obtain ⟨settlements, outcome⟩ := Prod.mk.inj outcome
  obtain ⟨phase, outcome⟩ := Prod.mk.inj outcome
  obtain ⟨quiet, stays⟩ := Prod.mk.inj outcome
  obtain ⟨run, hrun, aborted⟩ := Option.map_eq_some_iff.1 phase
  exact ⟨log, c, run, .initial, Promptly.started.follow followed, noted, by decide +kernel,
    settlements, hrun, aborted, quiet, stays⟩

end Consumer

end FlagAlerts
