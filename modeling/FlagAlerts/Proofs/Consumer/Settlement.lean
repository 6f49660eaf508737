import FlagAlerts.Proofs.Consumer.Balance
import FlagAlerts.Proofs.Intake.Steps

/-!
# The ledger of a run balances

On every course of a consumer a message that a run pulled was handled and settled by the result, or
handed back, or is still with the run, and the run settled nothing else.
-/

namespace FlagAlerts

/-- The message that a run of the consumer handles. -/
def ConsumerPhase.inHand : ConsumerPhase → List BusMessage
  | .handling m .. => [m]
  | _ => []

namespace Consumer

open Intake Ledger

/-! ## The invariant -/

/-- What holds of a run on every course. -/
structure RunKept (l : Ledger) (s : Intake) (i : Nat) (run : ConsumerRun) : Prop where
  number : run.run = i
  balanced : Balanced (ofRun i l.pulled) (ofRun i l.handled) (ofRun i l.settled)
    (run.phase.inHand + s.content i)
  begun : run.phase ≠ .aborted →
    ofRun i l.begun = (ofRun i l.handled).map (·.1) ++ run.phase.inHand
  summary : run.summary = ((ofRun i l.handled).map (·.2)).foldl RunSummary.add {}
  shut : run.phase = .leaving ∨ run.phase = .finished → s.IsShut i
  deserted : run.phase = .finished → s.isDeserted i = true

/-- What holds on every course of a consumer that began with the given messages in its queue. -/
structure Kept (queued : List BusMessage) (l : Ledger) (c : Consumer) : Prop where
  runs : c.intake.runs.length = c.runs.length
  workers : ∀ w ∈ c.intake.workers, w.run < c.runs.length
  each : ∀ i run, c.runs[i]? = some run → RunKept l c.intake i run
  blank : ∀ i, c.runs.length ≤ i → l.IsBlank i
  settlements : c.intake.settlements = l.settled.map (·.2)
  queue : queued ++ l.arrived = l.pulled.map (·.2) ++ c.intake.queue.messages

section Steps

variable {l e : Ledger} {s t : Intake} {i r : Nat} {run : ConsumerRun}

/-- A run keeps its invariant while others move. -/
theorem RunKept.frame (kept : RunKept l s i run) (blank : e.IsBlank i)
    (content : t.content i = s.content i) (shut : s.IsShut i → t.IsShut i)
    (deserted : s.isDeserted i = true → t.isDeserted i = true) : RunKept (l ++ e) t i run := by
  obtain ⟨pulled, begun, handled, settled⟩ := blank
  exact {
    number := kept.number
    balanced := by simpa [pulled, handled, settled, content] using kept.balanced
    begun := by simpa [begun, handled] using kept.begun
    summary := by simpa [handled] using kept.summary
    shut := fun h => shut (kept.shut h)
    deserted := fun h => deserted (kept.deserted h) }

/-- A run that has just begun has nothing. -/
theorem RunKept.of_blank (blank : l.IsBlank i) (number : run.run = i) (phase : run.phase = .waiting)
    (summary : run.summary = {}) (content : s.content i = 0) : RunKept l s i run := by
  obtain ⟨pulled, begun, handled, settled⟩ := blank
  exact {
    number := number
    balanced := ⟨[], by simp [pulled, handled, phase, content, ConsumerPhase.inHand],
      by simp [settled, handled]⟩
    begun := by simp [begun, handled, phase, ConsumerPhase.inHand]
    summary := by simp [handled, summary]
    shut := by simp [phase]
    deserted := by simp [phase] }

variable {queued : List BusMessage} {c d : Consumer} {mv : Move}

theorem worker_lt {v : Worker} (kept : Kept queued l c)
    (workers : t.workers.map (·.run) = c.intake.workers.map (·.run)) (h : v ∈ t.workers) :
    v.run < c.runs.length := by
  have member : v.run ∈ t.workers.map (·.run) := List.mem_map_of_mem h
  rw [workers] at member
  obtain ⟨w, hw, same⟩ := List.mem_map.1 member
  exact same ▸ kept.workers w hw

/-- A move of one run keeps the invariant if it does for the run itself. -/
theorem Kept.of_owner {p : List BusMessage} {x : List Settlement} (kept : Kept queued l c)
    (owner : c.owner? mv = some r) (bound : r < c.runs.length)
    (apart : Apart r c.intake d.intake)
    (queue : c.intake.queue.messages = p ++ d.intake.queue.messages)
    (settlements : d.intake.settlements = c.intake.settlements ++ x)
    (runs : d.runs.length = c.runs.length) (others : ∀ i, i ≠ r → d.runs[i]? = c.runs[i]?)
    (own : ∀ run, d.runs[r]? = some run → RunKept (l ++ c.entry mv d) d.intake r run) :
    Kept queued (l ++ c.entry mv d) d := by
  obtain ⟨arrived, pulled, settled⟩ := entry_of_owner owner queue settlements
  have elsewhere : ∀ i, i ≠ r → (c.entry mv d).IsBlank i := fun i h =>
    entry_isBlank (by rw [owner]; rintro ⟨⟩; exact h rfl)
  exact {
    runs := by rw [apart.runs, runs, kept.runs]
    workers := fun w hw => runs ▸ worker_lt kept apart.workers hw
    each := by
      intro i run h
      by_cases same : i = r
      · subst same
        exact own run h
      · exact (kept.each i run (others i same ▸ h)).frame (elsewhere i same) (apart.others i same)
          (apart.shut i) (apart.deserted i)
    blank := fun i h => (kept.blank i (runs ▸ h)).append (elsewhere i (by omega))
    settlements := by
      rw [settlements, kept.settlements, append_def, settled]
      simp [Function.comp_def]
    queue := by
      simp only [append_def, arrived, pulled, List.append_nil, List.map_append, List.map_map,
        Function.comp_def, List.map_id', kept.queue, queue, List.append_assoc] }

/-- A move that belongs to no run keeps the invariant if no run notices more of it than that it is
cancelled. -/
theorem Kept.of_nobody {new : List BusMessage} (kept : Kept queued l c) (owner : c.owner? mv = none)
    (apart : ∀ r, Apart r c.intake d.intake)
    (queue : d.intake.queue.messages = c.intake.queue.messages ++ new)
    (settlements : d.intake.settlements = c.intake.settlements)
    (runs : d.runs.length = c.runs.length)
    (same : ∀ (i : Nat) (run' : ConsumerRun), d.runs[i]? = some run' →
      ∃ (run : ConsumerRun) (b : Bool), c.runs[i]? = some run ∧
        run' = { run with isCancelled := b }) :
    Kept queued (l ++ c.entry mv d) d := by
  have blank : ∀ i, (c.entry mv d).IsBlank i := fun i => entry_isBlank (by simp [owner])
  have content : ∀ i, d.intake.content i = c.intake.content i :=
    fun i => (apart (i + 1)).others i (by omega)
  exact {
    runs := by rw [(apart 0).runs, runs, kept.runs]
    workers := fun w hw => runs ▸ worker_lt kept (apart 0).workers hw
    each := by
      intro i run' h
      obtain ⟨run, b, before, rfl⟩ := same i run' h
      have still := (kept.each i run before).frame (blank i) (content i) ((apart 0).shut i)
        ((apart 0).deserted i)
      exact { still with }
    blank := fun i h => (kept.blank i (runs ▸ h)).append (blank i)
    settlements := by rw [settlements, kept.settlements]; simp [entry, owner]
    queue := by simp [entry, owner, queue, ← List.append_assoc, kept.queue] }

/-- A step of a worker keeps the invariant. -/
theorem Kept.of_worker {worker : Nat} {w : Worker} {p b : List BusMessage} (kept : Kept queued l c)
    (owner : c.owner? mv = c.intake.workers[worker]?.map (·.run))
    (quiet : (c.entry mv d).begun = [] ∧ (c.entry mv d).handled = [])
    (hw : c.intake.workers[worker]? = some w) (flow : Flow w.run p b [] c.intake d.intake)
    (runs : d.runs = c.runs) : Kept queued (l ++ c.entry mv d) d := by
  have owner : c.owner? mv = some w.run := by rw [owner, hw]; rfl
  refine kept.of_owner owner (kept.workers w (List.mem_of_getElem? hw)) flow.toApart flow.queue
    flow.settlements (by rw [runs]) (fun i _ => by rw [runs]) fun run h => ?_
  obtain ⟨-, pulled, settled⟩ := entry_of_owner owner flow.queue flow.settlements
  rw [runs] at h
  have before := kept.each w.run run h
  have balance : (p : Multiset BusMessage) + (run.phase.inHand + c.intake.content w.run) =
      b + (run.phase.inHand + d.intake.content w.run) := by
    calc _ = run.phase.inHand + (p + c.intake.content w.run) := by abel
      _ = _ := by rw [flow.balance, Multiset.coe_nil]; abel
  exact {
    number := before.number
    balanced := by
      simpa only [append_def, pulled, settled, quiet.2, ofRun_append, ofRun_own, ofRun_nil,
        List.append_nil] using before.balanced.flow balance
    begun := by
      intro h
      simpa only [append_def, quiet.1, quiet.2, List.append_nil] using before.begun h
    summary := by simpa only [append_def, quiet.2, List.append_nil] using before.summary
    shut := fun h => flow.shut _ (before.shut h)
    deserted := fun h => flow.deserted _ (before.deserted h) }

/-! ## Steps of a run -/

variable {run' : ConsumerRun}

/-- A run that goes on to another phase keeps the invariant if it hands back what it does not have
any more. -/
theorem Kept.of_phase {b : List BusMessage} (kept : Kept queued l c) (run' : ConsumerRun)
    (begun : List BusMessage) (owner : c.owner? mv = some r) (hrun : c.runs[r]? = some run)
    (apart : Apart r c.intake d.intake)
    (queue : d.intake.queue.messages = c.intake.queue.messages)
    (settlements : d.intake.settlements = c.intake.settlements ++ b.map (·.handedBack))
    (balance : (run.phase.inHand : Multiset BusMessage) + c.intake.content r =
      b + (run'.phase.inHand + d.intake.content r))
    (runs : d.runs = c.runs.set r run')
    (fields : run'.run = run.run ∧ run'.summary = run.summary)
    (entries : (c.entry mv d).handled = [] ∧ (c.entry mv d).begun = begun.map (r, ·))
    (inHand : run'.phase ≠ .aborted →
      run.phase ≠ .aborted ∧ run'.phase.inHand = run.phase.inHand ++ begun)
    (shut : run'.phase = .leaving ∨ run'.phase = .finished → d.intake.IsShut r)
    (deserted : run'.phase = .finished → d.intake.isDeserted r = true) :
    Kept queued (l ++ c.entry mv d) d := by
  have queue : c.intake.queue.messages = [] ++ d.intake.queue.messages := by simp [queue]
  obtain ⟨bound, _⟩ := List.getElem?_eq_some_iff.1 hrun
  refine kept.of_owner owner bound apart queue settlements (by simp [runs])
    (fun i h => by rw [runs, List.getElem?_set_ne (Ne.symm h)]) fun after h => ?_
  obtain ⟨-, pulled, settled⟩ := entry_of_owner owner queue settlements
  obtain rfl : run' = after := by simpa [runs, bound] using h
  have before := kept.each r run hrun
  exact {
    number := fields.1.trans before.number
    balanced := by
      have balanced := before.balanced.flow (p := []) (b := b) (by simpa using balance)
      simpa only [append_def, pulled, settled, entries.1, ofRun_append, ofRun_own, ofRun_nil,
        List.append_nil, List.map_nil] using balanced
    begun := by
      intro h
      obtain ⟨running, inHand⟩ := inHand h
      simp only [append_def, ofRun_append, entries, ofRun_own, before.begun running, inHand,
        List.append_nil, List.append_assoc]
    summary := by
      simpa only [append_def, entries.1, List.append_nil, fields.2] using before.summary
    shut := shut
    deserted := deserted }

/-- A run that leaves keeps the invariant. -/
theorem Kept.leave (kept : Kept queued l c) (hrun : c.runs[r]? = some run)
    (phase : run.phase = .waiting) (idle : c.nextBegun? r = none) :
    Kept queued (l ++ c.entry (.act (.poll r)) (c.leave r run)) (c.leave r run) := by
  obtain rfl := (kept.each r run hrun).number
  obtain ⟨bound, _⟩ := List.getElem?_eq_some_iff.1 hrun
  have told : Flow run.run [] [] [] c.intake (c.intake.cancel run.run) :=
    setRun_flow _ _ fun _ => ⟨rfl, fun h => h⟩
  have exists_run : run.run < (c.intake.cancel run.run).runs.length := by
    rw [told.runs, kept.runs]; exact bound
  obtain ⟨closed, isShut⟩ := close_flow (List.getElem?_eq_getElem exists_run)
  have flow := told.trans closed
  refine kept.of_phase { run with phase := .leaving } [] rfl hrun flow.toApart flow.queue.symm
    flow.settlements ?_ rfl ⟨rfl, rfl⟩ ⟨?_, ?_⟩ ?_ (fun _ => isShut) ?_
  · simpa [phase, ConsumerPhase.inHand, Consumer.leave] using flow.balance
  · simp [entry, nextHandled?, hrun, phase]
  · simp [entry, idle]
  · simp [phase, ConsumerPhase.inHand]
  · simp

/-- The receiver settles a message: nothing but its permits and the settlement changes. -/
theorem settleHeld_frame {id : String} {isAcked : Bool} (h : s.settleHeld? id isAcked = some t) :
    t.workers = s.workers ∧ t.runs = s.runs ∧ t.queue = s.queue ∧
      t.settlements = s.settlements ++ [⟨id, isAcked⟩] := by
  unfold settleHeld? at h
  cases found : s.held.find? (·.id == id) with
  | none => simp [found] at h
  | some m =>
    have named : m.id = id := by simpa using List.find?_some found
    obtain rfl := by simpa [found] using h
    exact ⟨rfl, rfl, rfl, by rw [← named]; rfl⟩

/-- A run that is cut off first hands back the message that it handles. -/
theorem cutOff_eq_some {done : List (Nat × Effect)} (h : c.cutOff? r run done = some d) :
    ∃ s : Intake, s.workers = c.intake.workers ∧ s.runs = c.intake.runs ∧
      s.queue = c.intake.queue ∧
      s.settlements = c.intake.settlements ++ run.phase.inHand.map (·.handedBack) ∧
      d = { c.setRun r { run with phase := .aborted, effects := run.effects ++ done } with
        intake := s.abandon run.run } := by
  unfold cutOff? at h
  cases phase : run.phase with
  | waiting | leaving =>
    simp only [phase, Option.bind_eq_bind, Option.bind_some, Option.pure_def,
      Option.some.injEq] at h
    exact ⟨c.intake, rfl, rfl, rfl, by simp [ConsumerPhase.inHand], h.symm⟩
  | handling m start finish =>
    cases held : c.intake.settleHeld? m.id false with
    | none => simp [phase, held] at h
    | some s =>
      simp only [phase, held, Option.bind_eq_bind, Option.bind_some, Option.pure_def,
        Option.some.injEq] at h
      obtain ⟨workers, runs, queue, settlements⟩ := settleHeld_frame held
      exact ⟨s, workers, runs, queue, settlements, h.symm⟩
  | finished | aborted => simp [phase] at h

/-- A run that is cut off hands back the message that it handles and, if its workers have left, what
is in its channel. -/
theorem cutOff_flow {done : List (Nat × Effect)} (number : run.run = r)
    (h : c.cutOff? r run done = some d) :
    ∃ b run', run'.run = run.run ∧ run'.summary = run.summary ∧ run'.phase = .aborted ∧
      d.runs = c.runs.set r run' ∧ Apart r c.intake d.intake ∧
      d.intake.queue.messages = c.intake.queue.messages ∧
      d.intake.settlements =
        c.intake.settlements ++ (run.phase.inHand ++ b).map (·.handedBack) ∧
      c.intake.content r = b + d.intake.content r := by
  subst number
  obtain ⟨s, workers, runs, queue, settlements, rfl⟩ := cutOff_eq_some h
  have shutOff : Flow run.run [] [] [] s
      (s.setRun run.run fun run => { run with isClosed := true, isAbandoned := true }) :=
    setRun_flow _ _ fun _ => ⟨rfl, fun _ => rfl⟩
  obtain ⟨b, swept⟩ := sweep_flow (s.setRun run.run fun run =>
    { run with isClosed := true, isAbandoned := true }) run.run
  have flow := shutOff.trans swept
  have content : ∀ i, s.content i = c.intake.content i := by
    intro i
    rw [Intake.content, Intake.content, workers, runs]
  refine ⟨b, { run with phase := .aborted, effects := run.effects ++ done }, rfl, rfl, rfl, rfl, ?_,
    ?_, ?_, ?_⟩
  · exact {
      others := fun i h => (flow.others i h).trans (content i)
      shut := fun i h => flow.shut i (by simpa only [IsShut, runs] using h)
      deserted := fun i h => flow.deserted i (by simpa only [isDeserted, workers] using h)
      runs := by rw [← runs]; exact flow.runs
      workers := by rw [← workers]; exact flow.workers }
  · rw [← queue]; exact flow.queue.symm
  · rw [List.map_append, ← List.append_assoc, ← settlements]; exact flow.settlements
  · rw [← content]; simpa [abandon] using flow.balance

/-- A run that is cut off keeps the invariant. -/
theorem Kept.cutOff {done : List (Nat × Effect)} (kept : Kept queued l c)
    (hrun : c.runs[r]? = some run) (h : c.cutOff? r run done = some d) :
    Kept queued (l ++ c.entry (.act (.abort r)) d) d := by
  obtain ⟨b, run', number, summary, phase, runs, apart, queue, settlements, balance⟩ :=
    cutOff_flow (kept.each r run hrun).number h
  refine kept.of_phase (b := run.phase.inHand ++ b) run' [] rfl hrun apart queue settlements
    ?_ runs ⟨number, summary⟩ ⟨rfl, rfl⟩ (absurd phase) ?_ ?_
  · simp [balance, phase, ConsumerPhase.inHand, ← Multiset.coe_add, add_assoc]
  · simp [phase]
  · simp [phase]

/-- A run that takes a message begins to handle it, and keeps the invariant. -/
theorem Kept.receive {m : BusMessage} {start finish : Nat} (kept : Kept queued l c)
    (hrun : c.runs[r]? = some run) (phase : run.phase = .waiting) (goesOn : c.isOver run = false)
    (received : c.intake.receive? run.run = some (m, t))
    (h : d = { c.setRun r { run with phase := .handling m start finish } with intake := t }) :
    Kept queued (l ++ c.entry (.act (.poll r)) d) d := by
  subst h
  obtain rfl := (kept.each r run hrun).number
  have flow := receive_flow received
  refine kept.of_phase (b := []) { run with phase := .handling m start finish } [m] rfl hrun
    flow.toApart flow.queue.symm flow.settlements ?_ rfl ⟨rfl, rfl⟩ ⟨?_, ?_⟩ ?_ ?_ ?_
  · simpa [phase, ConsumerPhase.inHand] using flow.balance
  · simp [entry, nextHandled?, hrun, phase]
  · simp [entry, nextBegun?, hrun, phase, goesOn, received]
  · simp [phase, ConsumerPhase.inHand]
  · simp
  · simp

/-- A run that takes a message and breaks down at once keeps the invariant. -/
theorem Kept.breakDown {m : BusMessage} {start finish : Nat} {done : List (Nat × Effect)}
    (kept : Kept queued l c) (hrun : c.runs[r]? = some run) (phase : run.phase = .waiting)
    (goesOn : c.isOver run = false) (received : c.intake.receive? run.run = some (m, t))
    (h : Consumer.cutOff?
      { c.setRun r { run with phase := .handling m start finish } with intake := t } r
      { run with phase := .handling m start finish } done = some d) :
    Kept queued (l ++ c.entry (.act (.poll r)) d) d := by
  obtain rfl := (kept.each r run hrun).number
  have flow := receive_flow received
  have same : ({ run with phase := .handling m start finish } : ConsumerRun).run = run.run := rfl
  obtain ⟨b, run', number, summary, aborted, runs, apart, queue, settlements, balance⟩ :=
    cutOff_flow same h
  refine kept.of_phase (b := m :: b) run' [m] rfl hrun (flow.toApart.trans apart)
    (queue.trans flow.queue.symm) ?_ ?_ ?_ ⟨number, summary⟩ ⟨?_, ?_⟩ (absurd aborted) ?_ ?_
  · rw [settlements]
    simpa [ConsumerPhase.inHand] using flow.settlements
  · have balance := balance
    simpa [phase, aborted, ConsumerPhase.inHand, balance, ← Multiset.cons_coe] using flow.balance
  · rw [runs]
    simp [setRun]
  · simp [entry, nextHandled?, hrun, phase]
  · simp [entry, nextBegun?, hrun, phase, goesOn, received]
  · simp [aborted]
  · simp [aborted]

/-- A run that is done with a message settles it by the result, and keeps the invariant. -/
theorem Kept.settle {m : BusMessage} {start finish : Nat} (kept : Kept queued l c)
    (hrun : c.runs[r]? = some run) (phase : run.phase = .handling m start finish)
    (h : c.settle? r run m start = some d) :
    Kept queued (l ++ c.entry (.act (.poll r)) d) d := by
  obtain rfl := (kept.each r run hrun).number
  obtain ⟨bound, _⟩ := List.getElem?_eq_some_iff.1 hrun
  have before := kept.each run.run run hrun
  unfold settle? at h
  cases held : c.intake.settleHeld? m.id (c.handler.handle m).result.shouldAck with
  | none => simp [held] at h
  | some s =>
    simp only [held, Option.bind_eq_bind, Option.bind_some, Option.pure_def,
      Option.some.injEq] at h
    obtain ⟨workers, runs, queue, settlements⟩ := settleHeld_frame held
    obtain rfl : s = d.intake := by rw [← h]
    have after : d.runs = c.runs.set run.run { run with
        phase := .waiting
        summary := run.summary.add (c.handler.handle m).result
        effects := run.effects ++ (c.handler.handle m).actsFrom start } := by rw [← h]; rfl
    have queue : c.intake.queue.messages = [] ++ d.intake.queue.messages := by simp [queue]
    have owner : c.owner? (.act (.poll run.run)) = some run.run := rfl
    obtain ⟨-, pulled, settled⟩ := entry_of_owner owner queue settlements
    have handled : (c.entry (.act (.poll run.run)) d).handled =
        [(m, (c.handler.handle m).result)].map (run.run, ·) := by
      simp [entry, nextHandled?, hrun, phase]
    have begun : (c.entry (.act (.poll run.run)) d).begun = [] := by
      simp [entry, nextBegun?, hrun, phase]
    refine kept.of_owner rfl bound (.of_same _ workers runs) queue settlements (by simp [after])
      (fun i h => by rw [after, List.getElem?_set_ne (Ne.symm h)]) fun run' hrun' => ?_
    obtain rfl := by simpa [after, bound] using hrun'
    exact {
      number := rfl
      balanced := by
        have balance : run.phase.inHand + c.intake.content run.run =
            {m} + d.intake.content run.run := by
          simp [phase, ConsumerPhase.inHand, content, workers, runs]
        have balanced := before.balanced.handle (x := (m, (c.handler.handle m).result)) balance
        simpa [pulled, settled, handled, ConsumerPhase.inHand, settlementOf] using balanced
      begun := fun _ => by
        simpa [begun, handled, phase, ConsumerPhase.inHand] using before.begun (by simp [phase])
      summary := by simp [handled, before.summary]
      shut := by simp
      deserted := by simp }

/-- A step of a run keeps the invariant. -/
theorem Kept.poll (kept : Kept queued l c) (h : c.poll? r = some d) :
    Kept queued (l ++ c.entry (.act (.poll r)) d) d := by
  unfold poll? at h
  cases hrun : c.runs[r]? with
  | none => simp [hrun] at h
  | some run =>
    simp only [hrun, Option.bind_eq_bind, Option.bind_some] at h
    cases phase : run.phase with
    | waiting =>
      simp only [phase, take?] at h
      cases isOver : c.isOver run with
      | true =>
        simp only [isOver, if_true, Option.some.injEq] at h
        subst h
        exact kept.leave hrun phase (by simp [nextBegun?, hrun, phase, isOver])
      | false =>
        cases received : c.intake.receive? run.run with
        | none =>
          simp only [isOver, received, Bool.false_eq_true, if_false] at h
          split at h <;> cases h
          exact kept.leave hrun phase (by simp [nextBegun?, hrun, phase, isOver, received])
        | some found =>
          simp only [isOver, received, Bool.false_eq_true, if_false] at h
          split at h
          · exact kept.receive hrun phase isOver received (Option.some.inj h).symm
          · exact kept.breakDown hrun phase isOver received h
    | handling m start finish =>
      simp only [phase] at h
      split at h
      · exact kept.settle hrun phase h
      · cases h
    | leaving =>
      simp only [phase] at h
      split at h <;> cases h
      next deserted =>
        obtain rfl := (kept.each r run hrun).number
        refine kept.of_phase (b := []) { run with phase := .finished } [] rfl
          hrun (.of_same _ rfl rfl) rfl (by simp [setRun]) ?_ rfl ⟨rfl, rfl⟩ ⟨?_, ?_⟩ ?_ ?_ ?_
        · simp [phase, ConsumerPhase.inHand, setRun]
        · simp [entry, nextHandled?, hrun, phase]
        · simp [entry, nextBegun?, hrun, phase]
        · simp [phase, ConsumerPhase.inHand]
        · exact fun _ => (kept.each _ run hrun).shut (.inl phase)
        · exact fun _ => deserted
    | finished | aborted => simp [phase] at h

/-- A run that is cut off from outside keeps the invariant. -/
theorem Kept.abort (kept : Kept queued l c) (h : c.abort? r = some d) :
    Kept queued (l ++ c.entry (.act (.abort r)) d) d := by
  unfold abort? at h
  cases hrun : c.runs[r]? with
  | none => simp [hrun] at h
  | some run =>
    simp only [hrun, Option.bind_eq_bind, Option.bind_some] at h
    split at h
    · split at h
      · cases h
      · exact kept.cutOff hrun h
    · exact kept.cutOff hrun h

/-- A new run keeps the invariant: it has nothing yet. -/
theorem Kept.start (kept : Kept queued l c) :
    Kept queued (l ++ c.entry (.act .start) c.start) c.start := by
  have blank : ∀ i, (c.entry (.act .start) c.start).IsBlank i := fun i =>
    entry_isBlank (by simp [owner?])
  exact {
    runs := by simp [Consumer.start, Intake.start, kept.runs]
    workers := by
      intro w hw
      rcases List.mem_append.1 hw with old | new
      · exact Nat.lt_of_lt_of_le (kept.workers w old) (by simp [Consumer.start])
      · rw [(List.mem_replicate.1 new).2]
        simp [Consumer.start, kept.runs]
    each := by
      intro i run h
      rcases Nat.lt_or_ge i c.runs.length with old | new
      · have before : c.runs[i]? = some run := by
          simpa [Consumer.start, List.getElem?_append_left old] using h
        exact (kept.each i run before).frame (blank i) (content_start c.intake i) IsShut.start
          (deserted_start (by rw [kept.runs]; exact old))
      · obtain ⟨bound, _⟩ := List.getElem?_eq_some_iff.1 h
        obtain rfl : i = c.runs.length := by
          simp only [Consumer.start, List.length_append, List.length_singleton] at bound
          omega
        have content : c.start.intake.content c.runs.length = 0 :=
          (content_start c.intake _).trans
            (content_of_missing kept.workers (Nat.le_of_eq kept.runs))
        obtain rfl : _ = run := by simpa [Consumer.start] using h
        exact .of_blank ((kept.blank _ new).append (blank _)) kept.runs rfl rfl content
    blank := by
      intro i h
      refine (kept.blank i ?_).append (blank i)
      exact Nat.le_trans (by simp [Consumer.start]) h
    settlements := by simpa [entry, owner?, Consumer.start, Intake.start] using kept.settlements
    queue := by simpa [entry, owner?, Consumer.start, Intake.start] using kept.queue }

/-- A move of nobody that leaves the runs as they are keeps the invariant. -/
theorem Kept.of_bystander {new : List BusMessage} (kept : Kept queued l c)
    (owner : c.owner? mv = none) (apart : ∀ r, Apart r c.intake d.intake)
    (queue : d.intake.queue.messages = c.intake.queue.messages ++ new)
    (settlements : d.intake.settlements = c.intake.settlements) (runs : d.runs = c.runs) :
    Kept queued (l ++ c.entry mv d) d :=
  kept.of_nobody owner apart queue settlements (by rw [runs])
    fun _ run h => ⟨run, run.isCancelled, runs ▸ h, rfl⟩

/-- Every move keeps the invariant. -/
theorem Kept.move (kept : Kept queued l c) (h : c.move? mv = some d) :
    Kept queued (l ++ c.entry mv d) d := by
  cases mv with
  | rehandle handler =>
    cases h
    exact kept.of_bystander rfl (fun r => .of_same r rfl rfl) (List.append_nil _).symm rfl rfl
  | lag ms | turn failures staysOpen =>
    cases h
    exact kept.of_bystander rfl (fun r => .of_same r rfl rfl) (List.append_nil _).symm rfl rfl
  | overrun worker =>
    simp only [move?, overrun?] at h
    cases hw : c.intake.workers[worker]? with
    | none => simp [hw] at h
    | some w =>
      cases hrun : c.intake.runs[w.run]? with
      | none => simp [hw, hrun] at h
      | some run =>
        cases next : c.intake.proceed worker w run with
        | none => simp [hw, hrun, next] at h
        | some t =>
          obtain rfl := by simpa [hw, hrun, next] using h
          obtain ⟨p, b, flow⟩ := proceed_flow hw hrun next
          exact kept.of_worker rfl ⟨rfl, rfl⟩ hw flow rfl
  | act a =>
    cases a with
    | push attributes data =>
      cases h
      obtain ⟨apart, settlements, queue⟩ := push_frame c.intake attributes data
      exact kept.of_bystander rfl apart queue settlements rfl
    | failPull =>
      cases h
      exact kept.of_bystander rfl (fun r => .of_same r rfl rfl) (List.append_nil _).symm rfl rfl
    | start =>
      cases h
      exact kept.start
    | cancel r =>
      cases h
      refine kept.of_nobody rfl (fun r => .of_same r rfl rfl) (List.append_nil _).symm rfl
        (List.length_modify ..) fun i run' hrun' => ?_
      simp only [cancel, List.getElem?_modify] at hrun'
      obtain ⟨run, before, rfl⟩ := Option.map_eq_some_iff.1 hrun'
      by_cases same : r = i
      · exact ⟨run, true, before, by simp [same]⟩
      · exact ⟨run, run.isCancelled, before, by simp [same]⟩
    | abort r => exact kept.abort h
    | poll r => exact kept.poll h
    | work worker =>
      obtain ⟨t, next, rfl⟩ := Option.map_eq_some_iff.1 h
      obtain ⟨w, p, b, hw, flow⟩ := work_flow next
      exact kept.of_worker rfl ⟨rfl, rfl⟩ hw flow rfl
    | pass ms =>
      simp only [move?, step?, pass?] at h
      split at h
      · split at h
        · cases h
          exact kept.of_bystander rfl (fun r => .of_same r rfl rfl) (List.append_nil _).symm rfl rfl
        · cases h
      · cases h

end Steps

/-- The invariant holds on every course of a consumer that was never started before. -/
theorem Course.kept {limits : Limits} {queue : BusQueue} {handler : Handler} {window : Nat}
    {l : Ledger} {c : Consumer} (course : Course (idle limits queue handler window) l c) :
    Kept queue.messages l c := by
  induction course with
  | initial =>
    exact {
      runs := rfl
      workers := by simp [idle, ofLimits]
      each := by simp [idle]
      blank := fun _ _ => ⟨rfl, rfl, rfl, rfl⟩
      settlements := rfl
      queue := List.append_nil _ }
  | move mv _ next kept => exact kept.move next

end Consumer

end FlagAlerts
