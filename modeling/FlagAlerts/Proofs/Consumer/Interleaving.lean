import FlagAlerts.Proofs.Consumer.Ending
import FlagAlerts.Proofs.Consumer.Outcome
import FlagAlerts.Proofs.Intake.Progress
import FlagAlerts.Proofs.Timed

/-!
# The interleaving of workers does not matter

A run of the consumer that has the intake to itself and ends because it finds its channel closed has
handled every message of the queue once, each as it is handled alone. Nothing depends on the number of
workers, on the limits, on failing pulls or on who took which step when; only a run with one worker
also keeps the order of the queue.
-/

namespace FlagAlerts

namespace Consumer

open Intake Ledger

/-- A move while a run is on its own: no message arrives, no other run starts, messages are handled as
before, and whoever finds the queue empty finds it closed. -/
def Move.isQuiet : Move → Bool
  | .act (.push ..) | .act .start | .rehandle _ | .turn _ true => false
  | _ => true

/-- With its next step the run ends because it finds its channel closed. -/
def FindsClosed (c : Consumer) (i : Nat) (run : ConsumerRun) : Prop :=
  c.runs[i]? = some run ∧ run.phase = .waiting ∧ c.isOver run = false ∧
    c.intake.receive? run.run = none ∧ c.intake.isDeserted run.run = true

/-- A run is started when no worker is at work and the subscription is to close, is on its own until
it ends because it finds its channel closed, and leads to a state some time after that. -/
structure EndsClosed (l₀ : Ledger) (c₀ : Consumer) (l : Ledger) (d : Consumer) : Prop where
  atRest : ∀ w ∈ c₀.intake.workers, w.phase = .gone
  closing : c₀.intake.queue.staysOpen = false
  ends : ∃ before after k c run, before.all Move.isQuiet = true ∧
    follow? l₀ c₀ (.act .start :: before) = some (k, c) ∧ FindsClosed c c₀.runs.length run ∧
    follow? k c (.act (.poll c₀.runs.length) :: after) = some (l, d)

/-- Each of the messages was handled once, with the result, the settlement and the effects that
handling it alone has. -/
structure HandledAlone (handler : Handler) (queued : List BusMessage) (l : Ledger) (i : Nat)
    (run : ConsumerRun) : Prop where
  handled : (ofRun i l.handled).Perm (queued.map fun m => (m, (handler.handle m).result))
  settled : (ofRun i l.settled).Perm
    (queued.map fun m => ⟨m.id, (handler.handle m).result.shouldAck⟩)
  summary : run.summary = (queued.map fun m => (handler.handle m).result).foldl RunSummary.add {}
  effects : (run.effects.map (·.2)).Perm (queued.flatMap fun m => (handler.handle m).acts)

/-! ## A run on its own -/

/-- What holds of a run on its own with `n` workers, while it may still take messages. -/
structure Alone (n : Nat) (handler : Handler) (queued : List BusMessage) (l : Ledger) (c : Consumer)
    (i : Nat) (run : ConsumerRun) : Prop where
  handles : c.handler = handler
  others : ∀ w ∈ c.intake.workers, w.run ≠ i → w.phase = .gone
  count : (c.intake.workers.map (·.run)).count i = n
  closing : c.intake.queue.staysOpen = false
  queue : queued = ofRun i l.pulled ++ c.intake.queue.messages
  drained : ∀ w ∈ c.intake.workers, w.run = i → w.phase = .gone → c.intake.queue.messages = []
  settled : ofRun i l.settled = (ofRun i l.handled).map settlementOf
  results : ∀ x ∈ ofRun i l.handled, x.2 = (handler.handle x.1).result
  effects : run.effects.map (·.2) = (ofRun i l.handled).flatMap fun x => (handler.handle x.1).acts
  order : n = 1 →
    ofRun i l.pulled = ofRun i l.begun ++ c.intake.channel i ++ transit c.intake.workers i

section Steps

variable {n i j : Nat} {handler : Handler} {queued : List BusMessage} {l e : Ledger}
  {c d : Consumer} {run run' : ConsumerRun} {mv : Move}

/-- A run on its own keeps its invariant while nobody touches its workers, its channel or the queue. -/
theorem Alone.frame (alone : Alone n handler queued l c i run) (blank : e.IsBlank i)
    (handler' : d.handler = c.handler) (workers : d.intake.workers = c.intake.workers)
    (runs : d.intake.runs[i]? = c.intake.runs[i]?)
    (queue : d.intake.queue.messages = c.intake.queue.messages)
    (closing : d.intake.queue.staysOpen = false) (effects : run'.effects = run.effects) :
    Alone n handler queued (l ++ e) d i run' := by
  obtain ⟨pulled, begun, handled, settled⟩ := blank
  have channel : d.intake.channel i = c.intake.channel i := by rw [channel, runs, channel]
  exact {
    handles := handler'.trans alone.handles
    others := by rw [workers]; exact alone.others
    count := by rw [workers]; exact alone.count
    closing := closing
    queue := by simpa [pulled, queue] using alone.queue
    drained := by rw [workers, queue]; exact alone.drained
    settled := by simpa [settled, handled] using alone.settled
    results := by simpa [handled] using alone.results
    effects := by simpa [handled, effects] using alone.effects
    order := by simpa [pulled, begun, channel, workers] using alone.order }

/-- One of the run's workers goes on, maybe with a message from the queue. -/
theorem Alone.of_worker {t : Intake} {w v : Worker} {p : List BusMessage}
    (alone : Alone n handler queued l c i run) (hw : c.intake.workers[j]? = some w)
    (mine : w.run = i) (owner : c.owner? mv = some i)
    (quiet : (c.entry mv { c with intake := t }).begun = [] ∧
      (c.entry mv { c with intake := t }).handled = [])
    (settlements : t.settlements = c.intake.settlements)
    (staysOpen : t.queue.staysOpen = c.intake.queue.staysOpen) (same : v.run = w.run)
    (workers : t.workers = c.intake.workers.set j v)
    (queue : c.intake.queue.messages = p ++ t.queue.messages)
    (drained : v.phase = .gone → t.queue.messages = [])
    (order : n = 1 → ofRun i l.pulled ++ p =
      ofRun i l.begun ++ t.channel i ++ transit t.workers i) :
    Alone n handler queued (l ++ c.entry mv { c with intake := t }) { c with intake := t } i run := by
  obtain ⟨-, pulled, settled⟩ := entry_of_owner (d := { c with intake := t }) (x := []) owner queue
    (by rw [settlements, List.append_nil])
  exact {
    handles := alone.handles
    others := by
      intro x hx other
      rw [workers] at hx
      rcases List.mem_or_eq_of_mem_set hx with old | rfl
      · exact alone.others x old other
      · exact absurd (same.trans mine) other
    count := by
      show (t.workers.map (·.run)).count i = n
      rw [workers, runs_set hw same, alone.count]
    closing := staysOpen.trans alone.closing
    queue := by simp [pulled, alone.queue, queue]
    drained := by
      intro x hx own gone
      rw [workers] at hx
      rcases List.mem_or_eq_of_mem_set hx with old | rfl
      · have empty := alone.drained x old own gone
        rw [queue] at empty
        exact (List.append_eq_nil_iff.1 empty).2
      · exact drained gone
    settled := by simpa [settled, quiet.2] using alone.settled
    results := by simpa [quiet.2] using alone.results
    effects := by simpa [quiet.2] using alone.effects
    order := by simpa [pulled, quiet.1] using order }

/-- A step of one of the run's workers keeps the invariant. -/
theorem Alone.progress {t : Intake} {w : Worker} {own : IntakeRun}
    (alone : Alone n handler queued l c i run) (hw : c.intake.workers[j]? = some w)
    (mine : w.run = i) (hown : c.intake.runs[i]? = some own)
    (progress : Progress j w c.intake t) (owner : c.owner? mv = some i)
    (quiet : (c.entry mv { c with intake := t }).begun = [] ∧
      (c.entry mv { c with intake := t }).handled = []) :
    Alone n handler queued (l ++ c.entry mv { c with intake := t }) { c with intake := t } i run := by
  subst mine
  obtain ⟨settlements, staysOpen, change⟩ := progress
  -- With one worker, its message is all that is under way to the channel.
  have single : ∀ v : Worker, v.run = w.run → n = 1 →
      transit c.intake.workers w.run = w.phase.cargo ∧
        transit (c.intake.workers.set j v) w.run = v.phase.cargo := by
    intro v same one
    obtain ⟨before, after, old, new, others⟩ := transit_set hw same
    obtain ⟨rfl, rfl⟩ := others (alone.count.trans one)
    exact ⟨by simpa using old, by simpa using new⟩
  have channel : t.runs = c.intake.runs → t.channel w.run = c.intake.channel w.run := by
    intro runs
    rw [Intake.channel, runs, Intake.channel]
  cases change with
  | @went v same cargo stays workers runs queue =>
    refine alone.of_worker (p := []) hw rfl owner quiet settlements staysOpen same workers
      queue.symm (absurd · stays) fun one => ?_
    obtain ⟨old, new⟩ := single v same one
    rw [channel runs, workers, new, cargo, ← old, List.append_nil, alone.order one]
  | @pulled v m same had cargo stays workers runs queue =>
    refine alone.of_worker (p := [m]) hw rfl owner quiet settlements staysOpen same workers
      queue (absurd · stays) fun one => ?_
    obtain ⟨old, new⟩ := single v same one
    rw [channel runs, workers, new, cargo, alone.order one, old, had, List.append_nil]
  | @sent v m same had cargo stays workers runs queue =>
    refine alone.of_worker (p := []) hw rfl owner quiet settlements staysOpen same workers
      queue.symm (absurd · stays) fun one => ?_
    obtain ⟨old, new⟩ := single v same one
    have longer : t.channel w.run = c.intake.channel w.run ++ [m] := by
      simp [Intake.channel, runs, hown]
    rw [longer, workers, new, cargo, alone.order one, old, had]
    simp
  | left had workers runs empty queue =>
    refine alone.of_worker (v := { w with phase := .gone }) (p := []) hw rfl owner quiet settlements
      staysOpen rfl workers queue.symm (fun _ => queue.trans empty) fun one => ?_
    obtain ⟨old, new⟩ := single { w with phase := .gone } rfl one
    rw [channel runs, workers, new, alone.order one, old, had, List.append_nil]
    rfl

/-- A run that takes a message begins to handle the first one of its channel. -/
theorem Alone.receive {m : BusMessage} {t : Intake} {start finish : Nat}
    (alone : Alone n handler queued l c i run) (hrun : c.runs[i]? = some run)
    (number : run.run = i) (waits : run.phase = .waiting) (goesOn : c.isOver run = false)
    (received : c.intake.receive? run.run = some (m, t))
    (next : d = { c.setRun i { run with phase := .handling m start finish } with intake := t }) :
    Alone n handler queued (l ++ c.entry (.act (.poll i)) d) d i
      { run with phase := .handling m start finish } := by
  have begun : (c.entry (.act (.poll i)) d).begun = [m].map (i, ·) := by
    simp [entry, nextBegun?, hrun, waits, goesOn, received]
  have handled : (c.entry (.act (.poll i)) d).handled = [] := by
    simp [entry, nextHandled?, hrun, waits]
  rw [number] at received
  obtain ⟨own, rest, hown, messages, -, rfl⟩ := receive_eq_some received
  have workers : d.intake.workers = c.intake.workers := by rw [next]; rfl
  have queue : d.intake.queue = c.intake.queue := by rw [next]; rfl
  have settlements : d.intake.settlements = c.intake.settlements ++ [] := by
    rw [next, List.append_nil]
    rfl
  have before : c.intake.channel i = m :: rest := by simp [Intake.channel, hown, messages]
  have after : d.intake.channel i = rest := by simp [next, Intake.channel, Intake.setRun, hown]
  have owner : c.owner? (.act (.poll i)) = some i := rfl
  obtain ⟨-, pulled, settled⟩ := entry_of_owner (p := []) owner (by rw [queue]; rfl) settlements
  exact {
    handles := by rw [next]; exact alone.handles
    others := by rw [workers]; exact alone.others
    count := by rw [workers]; exact alone.count
    closing := by rw [queue]; exact alone.closing
    queue := by simpa [pulled, queue] using alone.queue
    drained := by rw [workers, queue]; exact alone.drained
    settled := by simpa [settled, handled] using alone.settled
    results := by simpa [handled] using alone.results
    effects := by simpa [handled] using alone.effects
    order := fun one => by simp [pulled, begun, after, workers, alone.order one, before] }

/-- A run that is done with a message has handled it as it is handled alone. -/
theorem Alone.settle {m : BusMessage} {t : Intake} {start finish : Nat}
    (alone : Alone n handler queued l c i run) (hrun : c.runs[i]? = some run)
    (handles : run.phase = .handling m start finish)
    (held : c.intake.settleHeld? m.id (c.handler.handle m).result.shouldAck = some t)
    (run' : ConsumerRun) (effects : run'.effects = run.effects ++ (c.handler.handle m).actsFrom start)
    (next : d = { c.setRun i run' with intake := t }) :
    Alone n handler queued (l ++ c.entry (.act (.poll i)) d) d i run' := by
  have begun : (c.entry (.act (.poll i)) d).begun = [] := by
    simp [entry, nextBegun?, hrun, handles]
  have handled : (c.entry (.act (.poll i)) d).handled =
      [(m, (c.handler.handle m).result)].map (i, ·) := by
    simp [entry, nextHandled?, hrun, handles]
  obtain ⟨workers, runs, queue, settlements⟩ := settleHeld_frame held
  have owner : c.owner? (.act (.poll i)) = some i := rfl
  obtain ⟨-, pulled, settled⟩ := entry_of_owner (d := d) (p := [])
    (x := [⟨m.id, (c.handler.handle m).result.shouldAck⟩]) owner (by rw [next, queue]; rfl)
    (by rw [next]; exact settlements)
  subst next
  have same := alone.handles
  exact {
    handles := same
    others := by rw [workers]; exact alone.others
    count := by rw [workers]; exact alone.count
    closing := by rw [queue]; exact alone.closing
    queue := by simpa [pulled, queue] using alone.queue
    drained := by rw [workers, queue]; exact alone.drained
    settled := by simp [settled, handled, alone.settled, settlementOf]
    results := by
      intro x hx
      simp only [append_def, handled, ofRun_append, ofRun_own, List.mem_append,
        List.mem_singleton] at hx
      rcases hx with old | rfl
      · exact alone.results x old
      · rw [same]
    effects := by
      rw [effects, List.map_append, alone.effects, Timed.map_actsFrom, same]
      simp [handled, same]
    order := by
      intro one
      have order := alone.order one
      simpa [pulled, begun, Intake.channel, runs, workers] using order }

/-! ## Moves -/

/-- No worker, no queue and no channel of a run changes. -/
structure Still (i : Nat) (c d : Consumer) : Prop where
  workers : d.intake.workers = c.intake.workers
  queue : d.intake.queue = c.intake.queue
  runs : d.intake.runs[i]? = c.intake.runs[i]?
  handler : d.handler = c.handler

theorem close_frame (s : Intake) (r : Nat) :
    (s.close r).workers = s.workers ∧ (s.close r).queue = s.queue ∧
      ∀ r', r' ≠ r → (s.close r).runs[r']? = s.runs[r']? := by
  unfold Intake.close
  split
  next own h =>
    obtain ⟨queue, workers, runs⟩ := handBack_frame s own.channel
    refine ⟨workers, queue, fun r' other => ?_⟩
    rw [(setRun_frame (s.handBack own.channel) _).2 r' other, runs]
  next => exact ⟨rfl, rfl, fun _ _ => rfl⟩

/-- A run that is cut off leaves the workers, the queue and the channels of others as they are. -/
theorem still_of_cutOff {done : List (Nat × Effect)} (h : c.cutOff? j run done = some d)
    (other : i ≠ run.run) : Still i c d := by
  obtain ⟨s, workers, runs, queue, -, rfl⟩ := cutOff_eq_some h
  have queue' : (s.abandon run.run).queue = s.queue := by
    unfold abandon sweep
    split
    · split
      · exact (handBack_frame _ _).1
      · rfl
    · rfl
  obtain ⟨swept, -, others⟩ := sweep_frame
    (s.setRun run.run fun run => { run with isClosed := true, isAbandoned := true }) run.run
  exact {
    workers := swept.trans workers
    queue := queue'.trans queue
    runs := by
      refine (others i other).trans ?_
      rw [(setRun_frame s _).2 i other, runs]
    handler := rfl }

/-- A step of a run leaves the workers, the queue and the channels of others as they are. -/
theorem Polled.still (h : Polled c j run d) (other : i ≠ run.run) : Still i c d := by
  cases h with
  | left waits ends next =>
    subst next
    obtain ⟨workers, queue, runs⟩ := close_frame (c.intake.cancel run.run) run.run
    exact ⟨workers, queue, (runs i other).trans ((setRun_frame c.intake _).2 i other), rfl⟩
  | took waits goesOn received next =>
    obtain ⟨own, rest, -, -, -, rfl⟩ := receive_eq_some received
    subst next
    exact ⟨rfl, rfl, (setRun_frame _ _).2 i other, rfl⟩
  | broke waits goesOn received next =>
    obtain ⟨own, rest, -, -, -, rfl⟩ := receive_eq_some received
    have cut := still_of_cutOff next other
    exact ⟨cut.workers, cut.queue, cut.runs.trans ((setRun_frame _ _).2 i other), cut.handler⟩
  | settled handles held next =>
    obtain ⟨workers, runs, queue, -⟩ := settleHeld_frame held
    subst next
    exact ⟨workers, queue, congrArg (·[i]?) runs, rfl⟩
  | finished leaves deserted next =>
    subst next
    exact ⟨rfl, rfl, rfl, rfl⟩

/-- Nobody but the run itself notices that others move. -/
theorem Alone.of_still (alone : Alone n handler queued l c i run) (blank : e.IsBlank i)
    (still : Still i c d) (effects : run'.effects = run.effects) :
    Alone n handler queued (l ++ e) d i run' :=
  alone.frame blank still.handler still.workers still.runs (by rw [still.queue])
    (by rw [still.queue]; exact alone.closing) effects

/-- A step of the run itself keeps the invariant as long as the run takes messages. -/
theorem Alone.poll (alone : Alone n handler queued l c i run) (hrun : c.runs[i]? = some run)
    (number : run.run = i) (polled : Polled c i run d) (hrun' : d.runs[i]? = some run')
    (going : run'.phase.isGoing = true) :
    Alone n handler queued (l ++ c.entry (.act (.poll i)) d) d i run' := by
  obtain ⟨bound, -⟩ := List.getElem?_eq_some_iff.1 hrun
  cases polled with
  | left waits ends next | finished leaves deserted next =>
    subst next
    obtain rfl : _ = run' := by simpa [Consumer.leave, setRun, bound] using hrun'
    cases going
  | took waits goesOn received next =>
    obtain rfl : _ = run' := by simpa [next, setRun, bound] using hrun'
    exact alone.receive hrun number waits goesOn received next
  | broke waits goesOn received next =>
    obtain ⟨s, -, -, -, -, rfl⟩ := cutOff_eq_some next
    obtain rfl : _ = run' := by simpa [setRun, bound] using hrun'
    cases going
  | settled handles held next =>
    obtain rfl : _ = run' := by simpa [next, setRun, bound] using hrun'
    exact alone.settle hrun handles held _ rfl next

/-- A run that takes messages after a step took them before. -/
theorem Polled.isGoing (polled : Polled c i run d) (hrun : c.runs[i]? = some run)
    (hrun' : d.runs[i]? = some run') (going : run'.phase.isGoing = true) :
    run.phase.isGoing = true := by
  obtain ⟨bound, -⟩ := List.getElem?_eq_some_iff.1 hrun
  cases polled with
  | left waits | took waits | broke waits =>
    rw [waits]
    rfl
  | settled handles =>
    rw [handles]
    rfl
  | finished leaves deserted next =>
    subst next
    obtain rfl : _ = run' := by simpa [setRun, bound] using hrun'
    cases going

/-- Whoever takes a step is one of the run's own workers, and the run is open. -/
theorem Alone.work {t : Intake} {w : Worker} {own : IntakeRun}
    (alone : Alone n handler queued l c i run) (st : Standing c) (hrun : c.runs[i]? = some run)
    (going : run.phase.isGoing = true) (hw : c.intake.workers[j]? = some w)
    (works : w.phase ≠ .gone) (hown : c.intake.runs[w.run]? = some own)
    (next : c.intake.work? j = some t ∨ c.intake.proceed j w own = some t)
    (owner : c.owner? mv = c.intake.workers[j]?.map (·.run))
    (quiet : (c.entry mv { c with intake := t }).begun = [] ∧
      (c.entry mv { c with intake := t }).handled = []) :
    Alone n handler queued (l ++ c.entry mv { c with intake := t }) { c with intake := t } i run := by
  have mine : w.run = i := by
    by_contra other
    exact works (alone.others w (List.mem_of_getElem? hw) other)
  subst mine
  obtain ⟨isOpen, goesOn, kept⟩ := st.isOpen hrun going hown
  have step : c.intake.proceed j w own = some t := by
    rcases next with next | next
    · simpa [work?, hw, hown, goesOn] using next
    · exact next
  exact alone.progress hw rfl hown (proceed_progress hw hown isOpen kept step)
    (by rw [owner, hw]; rfl) quiet

/-- As long as the run takes messages, it is on its own. -/
def GoesAlone (n : Nat) (handler : Handler) (queued : List BusMessage) (l : Ledger) (c : Consumer)
    (i : Nat) : Prop :=
  ∃ run, c.runs[i]? = some run ∧
    (run.phase.isGoing = true → Alone n handler queued l c i run)

/-- Every quiet move keeps the invariant. -/
theorem GoesAlone.move {first : List BusMessage} (goes : GoesAlone n handler queued l c i)
    (st : Standing c) (kept : Kept first l c) (quiet : mv.isQuiet = true)
    (h : c.move? mv = some d) : GoesAlone n handler queued (l ++ c.entry mv d) d i := by
  obtain ⟨run, hrun, alone⟩ := goes
  cases mv with
  | rehandle handler => cases quiet
  | lag ms =>
    cases h
    exact ⟨run, hrun, fun going =>
      (alone going).of_still (entry_isBlank (by simp [owner?])) ⟨rfl, rfl, rfl, rfl⟩ rfl⟩
  | turn failures staysOpen =>
    cases staysOpen with
    | true => cases quiet
    | false =>
      cases h
      exact ⟨run, hrun, fun going =>
        (alone going).frame (entry_isBlank (by simp [owner?])) rfl rfl rfl rfl rfl rfl⟩
  | overrun worker =>
    obtain ⟨w, own, t, hw, hown, next, rfl⟩ := overrun_eq_some h
    have works : w.phase ≠ .gone := fun gone => by simp [proceed_gone gone] at next
    exact ⟨run, hrun, fun going =>
      (alone going).work st hrun going hw works hown (.inr next) rfl ⟨rfl, rfl⟩⟩
  | act a =>
    cases a with
    | push attributes data | start => cases quiet
    | failPull =>
      cases h
      exact ⟨run, hrun, fun going =>
        (alone going).frame (entry_isBlank (by simp [owner?])) rfl rfl rfl rfl (alone going).closing rfl⟩
    | cancel r =>
      cases h
      by_cases same : r = i
      · have present : (c.cancel r).runs[i]? = some { run with isCancelled := true } := by
          rw [cancel, same, List.getElem?_modify_eq, hrun]
          rfl
        exact ⟨_, present, fun going =>
          (alone going).of_still (entry_isBlank (by simp [owner?])) ⟨rfl, rfl, rfl, rfl⟩ rfl⟩
      · have present : (c.cancel r).runs[i]? = some run := by
          rw [cancel, List.getElem?_modify_ne _ _ same, hrun]
        exact ⟨run, present, fun going =>
          (alone going).of_still (entry_isBlank (by simp [owner?])) ⟨rfl, rfl, rfl, rfl⟩ rfl⟩
    | abort r =>
      obtain ⟨run', done, hrun', cut⟩ := abort_eq_some h
      obtain ⟨-, after, -, -, aborted, runs, -⟩ := cutOff_flow (kept.each r run' hrun').number cut
      by_cases same : r = i
      · subst same
        obtain ⟨bound, -⟩ := List.getElem?_eq_some_iff.1 hrun
        refine ⟨after, by rw [runs, List.getElem?_set_self bound], fun going => ?_⟩
        rw [aborted] at going
        cases going
      · refine ⟨run, by rw [runs, List.getElem?_set_ne same, hrun], fun going => ?_⟩
        have other : i ≠ run'.run := by rw [(kept.each r run' hrun').number]; exact Ne.symm same
        exact (alone going).of_still (entry_isBlank (by simpa [owner?] using same))
          (still_of_cutOff cut other) rfl
    | poll r =>
      obtain ⟨run', hrun', polled⟩ := poll_eq_some h
      obtain ⟨-, after, runs⟩ := polled.frame kept hrun'
      have number := (kept.each r run' hrun').number
      by_cases same : r = i
      · subst same
        obtain rfl : run = run' := Option.some.inj (hrun.symm.trans hrun')
        obtain ⟨bound, -⟩ := List.getElem?_eq_some_iff.1 hrun
        have present : d.runs[r]? = some after := by rw [runs, List.getElem?_set_self bound]
        exact ⟨after, present, fun going =>
          (alone (polled.isGoing hrun present going)).poll hrun number polled present going⟩
      · refine ⟨run, by rw [runs, List.getElem?_set_ne same, hrun], fun going => ?_⟩
        exact (alone going).of_still (entry_isBlank (by simpa [owner?] using same))
          (polled.still (by rw [number]; exact Ne.symm same)) rfl
    | work worker =>
      obtain ⟨t, next, rfl⟩ := Option.map_eq_some_iff.1 h
      obtain ⟨w, hw, -⟩ := work_stepped next
      have bound := kept.workers w (List.mem_of_getElem? hw)
      rw [← kept.runs] at bound
      exact ⟨run, hrun, fun going => (alone going).work st hrun going hw (work_gone hw next)
        (List.getElem?_eq_getElem bound) (.inl next) rfl ⟨rfl, rfl⟩⟩
    | pass ms =>
      obtain rfl := pass_eq_some h
      exact ⟨run, hrun, fun going =>
        (alone going).of_still (entry_isBlank (by simp [owner?])) ⟨rfl, rfl, rfl, rfl⟩ rfl⟩

/-- A new run is on its own if no worker is at work when it starts. -/
theorem Kept.startsAlone {first : List BusMessage} (kept : Kept first l c)
    (atRest : ∀ w ∈ c.intake.workers, w.phase = .gone)
    (closing : c.intake.queue.staysOpen = false) :
    GoesAlone c.intake.limits.workers c.handler c.intake.queue.messages
      (l ++ c.entry (.act .start) c.start) c.start c.runs.length := by
  have blank : (c.entry (.act .start) c.start).IsBlank c.runs.length := entry_isBlank (by simp [owner?])
  obtain ⟨pulled, begun, handled, settled⟩ :=
    (kept.blank c.runs.length (Nat.le_refl _)).append blank
  have workers : c.start.intake.workers = c.intake.workers ++
      List.replicate c.intake.limits.workers
        { run := c.intake.runs.length, retryDelay := firstRetryDelay } := rfl
  have none : ∀ w ∈ c.intake.workers, w.run ≠ c.runs.length := fun w hw =>
    Nat.ne_of_lt (kept.workers w hw)
  refine ⟨_, List.getElem?_concat_length, fun _ => ?_⟩
  exact {
    handles := rfl
    others := by
      intro w hw other
      rw [workers] at hw
      rcases List.mem_append.1 hw with old | new
      · exact atRest w old
      · rw [(List.mem_replicate.1 new).2] at other
        exact absurd kept.runs other
    count := by
      rw [workers, List.map_append, List.count_append, List.map_replicate, kept.runs,
        List.count_replicate_self]
      have zero : (c.intake.workers.map (·.run)).count c.runs.length = 0 := by
        refine List.count_eq_zero.2 fun member => ?_
        obtain ⟨w, hw, same⟩ := List.mem_map.1 member
        exact none w hw same
      omega
    closing := closing
    queue := by rw [pulled]; rfl
    drained := by
      intro w hw own gone
      rw [workers] at hw
      rcases List.mem_append.1 hw with old | new
      · exact absurd own (none w old)
      · rw [(List.mem_replicate.1 new).2] at gone
        cases gone
    settled := by rw [settled, handled]; rfl
    results := by rw [handled]; simp
    effects := by rw [handled]; rfl
    order := by
      intro _
      have channel : c.start.intake.channel c.runs.length = [] := by
        simp [Intake.channel, Consumer.start, Intake.start, ← kept.runs]
      have under : transit c.start.intake.workers c.runs.length = [] := by
        refine List.flatMap_eq_nil_iff.2 fun w hw => ?_
        rw [workers] at hw
        rcases List.mem_append.1 hw with old | new
        · rw [if_neg (none w old)]
        · rw [(List.mem_replicate.1 new).2]
          exact ite_self _
      rw [pulled, begun, channel, under]
      rfl }

/-- The order in which the handled messages are counted does not matter. -/
instance : RightCommutative RunSummary.add where
  right_comm s a b := by
    cases a <;> cases b <;> rfl

/-- Where nobody can receive from an open run, its channel is empty. -/
theorem channel_of_receive {s : Intake} {own : IntakeRun} (hown : s.runs[i]? = some own)
    (kept : own.isAbandoned = false) (nothing : s.receive? i = none) : s.channel i = [] := by
  cases channel : own.channel with
  | nil => simp [Intake.channel, hown, channel]
  | cons m rest => simp [receive?, hown, channel, kept] at nothing

/-- A run on its own that finds its channel closed has handled each message of the queue as it is
handled alone. -/
theorem Alone.handledAlone {first : List BusMessage} (alone : Alone n handler queued l c i run)
    (kept : Kept first l c) (st : Standing c) (workers : 0 < n) (found : FindsClosed c i run) :
    HandledAlone handler queued l i run ∧
      (n = 1 → (ofRun i l.handled).map (·.1) = queued) := by
  obtain ⟨hrun, waits, -, nothing, deserted⟩ := found
  have own := kept.each i run hrun
  rw [own.number] at nothing deserted
  obtain ⟨bound, -⟩ := List.getElem?_eq_some_iff.1 hrun
  rw [← kept.runs] at bound
  have hown := List.getElem?_eq_getElem bound
  obtain ⟨-, -, isKept⟩ := st.isOpen hrun (by rw [waits]; rfl) hown
  have channel := channel_of_receive hown isKept nothing
  have inHand : run.phase.inHand = [] := by rw [waits]; rfl
  -- Some worker has left, and it found the queue empty.
  have drained : c.intake.queue.messages = [] := by
    have some : 0 < (c.intake.workers.map (·.run)).count i := by rw [alone.count]; exact workers
    obtain ⟨w, hw, mine⟩ := List.mem_map.1 (List.count_pos_iff.1 some)
    exact alone.drained w hw mine (isDeserted_iff.1 deserted w hw mine)
  have queue : queued = ofRun i l.pulled := by rw [alone.queue, drained, List.append_nil]
  -- What was pulled was handled, since there is a settlement for nothing else.
  have messages : ((ofRun i l.handled).map (·.1)).Perm queued := by
    obtain ⟨returned, messages, settlements⟩ := own.balanced
    have content : c.intake.content i = 0 := by
      rw [content, carried_of_deserted deserted, buffered]
      exact congrArg Multiset.ofList channel
    rw [inHand, content, Multiset.coe_nil, zero_add, add_zero] at messages
    have count := congrArg Multiset.card settlements
    simp only [alone.settled, Multiset.card_add, Multiset.coe_card, List.length_map] at count
    have none : returned = [] := List.eq_nil_of_length_eq_zero (by omega)
    rw [none, Multiset.coe_nil, add_zero, ← queue] at messages
    exact (Multiset.coe_eq_coe.1 messages).symm
  have handled : ofRun i l.handled =
      ((ofRun i l.handled).map (·.1)).map fun m => (m, (handler.handle m).result) := by
    rw [List.map_map]
    refine (List.map_id' _).symm.trans (List.map_congr_left fun x hx => ?_)
    exact Prod.ext rfl (alone.results x hx)
  refine ⟨?_, fun one => ?_⟩
  · exact {
      handled := by
        rw [handled]
        exact messages.map _
      settled := by
        rw [alone.settled, handled, List.map_map]
        exact messages.map _
      summary := by
        rw [own.summary, handled, List.map_map]
        exact (messages.map _).foldl_eq _
      effects := by
        rw [alone.effects, handled, List.flatMap_map]
        exact messages.flatMap_right _ }
  · have order := alone.order one
    rw [channel, transit_of_deserted deserted, List.append_nil, List.append_nil, ← queue,
      own.begun (by simp [waits]), inHand, List.append_nil] at order
    exact order.symm

/-- A run that finds its channel closed is over with its next step, which settles nothing. -/
theorem FindsClosed.isOver {first : List BusMessage} (found : FindsClosed c i run)
    (kept : Kept first l c) (st : Standing c) (h : c.poll? i = some d) :
    (c.entry (.act (.poll i)) d).IsBlank i ∧ IsOver d i { run with phase := .leaving } := by
  obtain ⟨hrun, waits, goesOn, nothing, deserted⟩ := found
  have number := (kept.each i run hrun).number
  obtain ⟨bound, -⟩ := List.getElem?_eq_some_iff.1 hrun
  have next : d = c.leave i run := by
    simp only [poll?, hrun, Option.bind_eq_bind, Option.bind_some, waits, take?, goesOn, nothing,
      deserted, if_true, Bool.false_eq_true, if_false, Option.some.injEq] at h
    exact h.symm
  have present : d.runs[i]? = some { run with phase := .leaving } := by
    rw [next]
    exact List.getElem?_set_self bound
  have exists_run : run.run < c.intake.runs.length := by rw [number, kept.runs]; exact bound
  obtain ⟨returned, flow⟩ := leave_flow_run (i := i) exists_run
  rw [← next] at flow
  rw [number] at flow nothing deserted
  have empty : c.intake.content i = 0 := by
    rw [← kept.runs] at bound
    have hown := List.getElem?_eq_getElem bound
    obtain ⟨-, -, isKept⟩ := st.isOpen hrun (by rw [waits]; rfl) hown
    rw [content, carried_of_deserted deserted, buffered]
    exact congrArg Multiset.ofList (channel_of_receive hown isKept nothing)
  have none : returned = [] := by
    have balance := congrArg Multiset.card flow.balance
    simp only [empty, Multiset.card_add, Multiset.coe_card, List.length_nil] at balance
    exact List.eq_nil_of_length_eq_zero (by simp at balance; omega)
  have moved : c.move? (.act (.poll i)) = some d := h
  have isOver := (kept.move moved).each i _ present
  refine ⟨?_, present, .inl rfl, flow.deserted i deserted, isOver.shut (.inl rfl)⟩
  refine blank_of_still rfl flow.queue.symm ?_ ?_ ?_
  · rw [flow.settlements, none, List.map_nil, List.append_nil]
  · simp [entry, nextBegun?, hrun, waits, goesOn, nothing, number]
  · simp [entry, nextHandled?, hrun, waits]

end Steps

section Courses

variable {limits : Limits} {queue : BusQueue} {handler : Handler} {window n i : Nat}
  {queued : List BusMessage} {l₀ l k : Ledger} {c₀ c d : Consumer} {run : ConsumerRun}

theorem GoesAlone.follow {moves : List Move} {handler' : Handler}
    (course : Course (idle limits queue handler window) l c)
    (goes : GoesAlone n handler' queued l c i) (quiet : moves.all Move.isQuiet = true)
    (h : follow? l c moves = some (k, d)) : GoesAlone n handler' queued k d i := by
  induction moves generalizing l c with
  | nil =>
    cases h
    exact goes
  | cons mv rest ih =>
    rw [List.all_cons, Bool.and_eq_true] at quiet
    obtain ⟨next, moved, h⟩ := Option.bind_eq_some_iff.1 h
    exact ih (course.move mv moved) (goes.move course.standing course.kept quiet.1 moved) quiet.2 h

/-- A run that ends because it finds its channel closed has handled each message that was in the queue
when it started as it is handled alone. -/
theorem EndsClosed.handledAlone (course : Course (idle limits queue handler window) l₀ c₀)
    (workers : 0 < c₀.intake.limits.workers) (closed : EndsClosed l₀ c₀ l d)
    (hrun : d.runs[c₀.runs.length]? = some run) :
    HandledAlone c₀.handler c₀.intake.queue.messages l c₀.runs.length run ∧
      (c₀.intake.limits.workers = 1 →
        (ofRun c₀.runs.length l.handled).map (·.1) = c₀.intake.queue.messages) := by
  obtain ⟨before, after, k, c, ending, quiet, alone, found, later⟩ := closed.ends
  obtain ⟨c₁, started, alone⟩ := Option.bind_eq_some_iff.1 alone
  obtain rfl := Option.some.inj (started.symm.trans (rfl : c₀.move? (.act .start) = some c₀.start))
  obtain ⟨e, left, later⟩ := Option.bind_eq_some_iff.1 later
  have first := course.move (.act .start) (rfl : _ = some c₀.start)
  have goes := GoesAlone.follow first
    (course.kept.startsAlone closed.atRest closed.closing) quiet alone
  have course' := first.follow alone
  obtain ⟨run', hrun', goesOn⟩ := goes
  obtain rfl : ending = run' := Option.some.inj (found.1.symm.trans hrun')
  have going : ending.phase.isGoing = true := by rw [found.2.1]; rfl
  obtain ⟨handled, order⟩ := (goesOn going).handledAlone course'.kept course'.standing workers found
  obtain ⟨blank, isOver⟩ := found.isOver course'.kept course'.standing left
  obtain ⟨agree, last, isOver', summary, effects⟩ := isOver.follow (course'.kept.move left) later
  obtain rfl : run = last := Option.some.inj (hrun.symm.trans isOver'.present)
  obtain ⟨-, -, same, settled⟩ := (agreeOn_append blank).trans agree
  refine ⟨?_, fun one => ?_⟩
  · exact {
      handled := by rw [same]; exact handled.handled
      settled := by rw [settled]; exact handled.settled
      summary := summary.trans handled.summary
      effects := by rw [effects]; exact handled.effects }
  · rw [same]
    exact order one

/-- Two runs have done the same: they have the same summary, and in some order the same settlements
and the same effects. -/
structure SameOutcome (l : Ledger) (i : Nat) (run : ConsumerRun) (k : Ledger) (j : Nat)
    (run' : ConsumerRun) : Prop where
  summary : run.summary = run'.summary
  settled : (ofRun i l.settled).Perm (ofRun j k.settled)
  effects : (run.effects.map (·.2)).Perm (run'.effects.map (·.2))

theorem HandledAlone.sameOutcome {j : Nat} {run' : ConsumerRun}
    (first : HandledAlone handler queued l i run) (second : HandledAlone handler queued k j run') :
    SameOutcome l i run k j run' where
  summary := first.summary.trans second.summary.symm
  settled := first.settled.trans second.settled.symm
  effects := first.effects.trans second.effects.symm

/-- A run that ends because it finds its channel closed has handled each message of the queue once, as
it is handled alone. So it has done the same as any such run with one worker, and with one worker the
messages are handled in the order of the queue. -/
theorem closed_run_handles_each_message_alone
    (course : Course (idle limits queue handler window) l₀ c₀)
    (workers : 0 < c₀.intake.limits.workers) (closed : EndsClosed l₀ c₀ l d)
    (hrun : d.runs[c₀.runs.length]? = some run) :
    HandledAlone c₀.handler c₀.intake.queue.messages l c₀.runs.length run ∧
      (c₀.intake.limits.workers = 1 →
        (ofRun c₀.runs.length l.handled).map (·.1) = c₀.intake.queue.messages) ∧
      ∀ limits' queue' handler' window' k₀ b₀ k b run',
        Course (idle limits' queue' handler' window') k₀ b₀ → b₀.intake.limits.workers = 1 →
        EndsClosed k₀ b₀ k b → b.runs[b₀.runs.length]? = some run' → b₀.handler = c₀.handler →
        b₀.intake.queue.messages = c₀.intake.queue.messages →
          SameOutcome l c₀.runs.length run k b₀.runs.length run' := by
  obtain ⟨alone, order⟩ := closed.handledAlone course workers hrun
  refine ⟨alone, order, ?_⟩
  intro limits' queue' handler' window' k₀ b₀ k b run' course' one closed' hrun' handler messages
  have several : 0 < b₀.intake.limits.workers := by omega
  obtain ⟨other, -⟩ := closed'.handledAlone course' several hrun'
  rw [handler, messages] at other
  exact alone.sameOutcome other

end Courses

/-- A consumer with three messages, of which the first takes a while. -/
def busy (workers : Nat) : Consumer :=
  idle ⟨workers, 3, 1000, 0⟩
    { messages := [announcement "first", ⟨"second", [], []⟩, ⟨"third", [], []⟩] }
    { platform := World.platform {}, sender := Sender.failing [] 5000, timeout := 10000, newId := "" }
    60000

/-- What a first run leads to that makes quiet moves and finds its channel closed. -/
def endsClosed? (c₀ : Consumer) (before : List Move) : Option (Ledger × Consumer) := do
  let (k, c) ← follow? {} c₀ (.act .start :: before)
  let run ← c.runs[c₀.runs.length]?
  if before.all Move.isQuiet && run.phase == .waiting && !c.isOver run &&
      (c.intake.receive? run.run).isNone && c.intake.isDeserted run.run then
    follow? k c (List.replicate 2 (.act (.poll c₀.runs.length)))
  else none

theorem endsClosed_of_eq_some {c₀ d : Consumer} {before : List Move} {l : Ledger}
    (fresh : c₀.intake.workers = []) (closing : c₀.intake.queue.staysOpen = false)
    (h : endsClosed? c₀ before = some (l, d)) : EndsClosed {} c₀ l d := by
  simp only [endsClosed?, Option.bind_eq_bind, Option.bind_eq_some_iff] at h
  obtain ⟨⟨k, c⟩, followed, run, hrun, h⟩ := h
  split at h
  next found =>
    simp only [Bool.and_eq_true, Bool.not_eq_true', beq_iff_eq, Option.isNone_iff_eq_none] at found
    obtain ⟨⟨⟨⟨quiet, waits⟩, goesOn⟩, nothing⟩, deserted⟩ := found
    exact {
      atRest := by simp [fresh]
      closing := closing
      ends := ⟨before, _, k, c, run, quiet, followed, ⟨hrun, waits, goesOn, nothing, deserted⟩, h⟩ }
  next => cases h

/-- Two workers, of which one overtakes the other with the second message. -/
def overtaking : List Move :=
  List.replicate 2 (.act (.work 1)) ++ List.replicate 5 (.act (.work 0)) ++
    List.replicate 3 (.act (.work 1)) ++ List.replicate 2 (.act (.poll 0)) ++
    List.replicate 7 (.act (.work 0)) ++ List.replicate 2 (.act (.work 1)) ++
    [.act (.poll 0), .act (.pass 5000)] ++ List.replicate 3 (.act (.poll 0))

/-- One worker, which is done before the run begins to handle messages. -/
def inOrder : List Move :=
  List.replicate 9 (.act (.work 0)) ++ [.act (.poll 0)] ++ List.replicate 5 (.act (.work 0)) ++
    [.act (.pass 5000)] ++ List.replicate 2 (.act (.poll 0)) ++ List.replicate 3 (.act (.work 0)) ++
    List.replicate 3 (.act (.poll 0))

/-- A message that is overtaken is handled as it is with one worker. -/
theorem overtaken_message_is_handled_alone :
    ∃ l d run, EndsClosed {} (busy 2) l d ∧ d.runs[0]? = some run ∧
      (ofRun 0 l.handled).map (·.1.id) = ["second", "first", "third"] ∧
      HandledAlone (busy 2).handler (busy 2).intake.queue.messages l 0 run ∧
      ∃ k b run', EndsClosed {} (busy 1) k b ∧ b.runs[0]? = some run' ∧
        (ofRun 0 k.handled).map (·.1.id) = ["first", "second", "third"] ∧
        SameOutcome l 0 run k 0 run' := by
  have outcome : (endsClosed? (busy 2) overtaking).map (fun x =>
      ((ofRun 0 x.1.handled).map (·.1.id), x.2.runs[0]?.isSome)) =
        some (["second", "first", "third"], true) := by decide +kernel
  have outcome' : (endsClosed? (busy 1) inOrder).map (fun x =>
      ((ofRun 0 x.1.handled).map (·.1.id), x.2.runs[0]?.isSome)) =
        some (["first", "second", "third"], true) := by decide +kernel
  obtain ⟨⟨l, d⟩, ended, outcome⟩ := Option.map_eq_some_iff.1 outcome
  obtain ⟨⟨k, b⟩, ended', outcome'⟩ := Option.map_eq_some_iff.1 outcome'
  obtain ⟨handled, present⟩ := Prod.mk.inj outcome
  obtain ⟨handled', present'⟩ := Prod.mk.inj outcome'
  obtain ⟨run, hrun⟩ := Option.isSome_iff_exists.1 present
  obtain ⟨run', hrun'⟩ := Option.isSome_iff_exists.1 present'
  have closed := endsClosed_of_eq_some rfl rfl ended
  have closed' := endsClosed_of_eq_some rfl rfl ended'
  obtain ⟨alone, -, same⟩ := closed_run_handles_each_message_alone .initial (by decide) closed hrun
  exact ⟨l, d, run, closed, hrun, handled, alone, k, b, run', closed', hrun', handled',
    same _ _ _ _ _ _ _ _ _ .initial rfl closed' hrun' rfl rfl⟩

end Consumer

end FlagAlerts
