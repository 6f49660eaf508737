import FlagAlerts.Proofs.Consumer.Settlement
import FlagAlerts.Proofs.Intake.Standing

/-!
# What a run tells its intake

The phase of a run of the consumer says what the intake's run was told: nothing while the run waits
or handles a message, that it is closed and cancelled when the run leaves, and that it is closed and
abandoned when the run is cut off. Only a run that leaves tells its workers to do so.
-/

namespace FlagAlerts

/-- The orders that the intake's run has when the consumer's run is in this phase. -/
def ConsumerPhase.Accords (o : IntakeRun) : ConsumerPhase → Prop
  | .waiting | .handling .. => o = {}
  | .leaving | .finished => o = { isClosed := true, isCancelled := true }
  | .aborted => ∃ wasTold, o = { isClosed := true, isCancelled := wasTold, isAbandoned := true }

/-- Whether the run may still take messages. -/
def ConsumerPhase.isGoing : ConsumerPhase → Bool
  | .waiting | .handling .. => true
  | _ => false

namespace Intake

/-! ## Receivers -/

section Receivers

variable {s t : Intake} {r : Nat}

theorem orders_cancel (s : Intake) (r : Nat) :
    (s.cancel r).orders =
      s.orders.modify r fun o => { o with channel := [], isCancelled := true } :=
  orders_setRun s r _ fun _ => rfl

theorem orders_close (s : Intake) (r : Nat) :
    (s.close r).orders = s.orders.modify r fun o => { o with channel := [], isClosed := true } := by
  unfold close
  split
  next run h =>
    have told := orders_setRun (s.handBack run.channel) r
      (fun run => { run with channel := [], isClosed := true }) fun _ => rfl
    have same : (s.handBack run.channel).orders = s.orders := by
      rw [orders, (handBack_frame s run.channel).2.2, orders]
    rw [same] at told
    exact told
  next missing =>
    have absent : s.orders.length ≤ r := by simpa [orders] using missing
    rw [List.modify_eq_self absent]

theorem orders_abandon (s : Intake) (r : Nat) :
    (s.abandon r).orders =
      s.orders.modify r fun o => { o with channel := [], isClosed := true, isAbandoned := true } :=
  (sweep_frame _ r).2.1.trans (orders_setRun s r _ fun _ => rfl)

theorem receive_eq_some {m : BusMessage} (h : s.receive? r = some (m, t)) :
    ∃ run rest, s.runs[r]? = some run ∧ run.channel = m :: rest ∧ run.isAbandoned = false ∧
      t = { s with held := s.held ++ [m] }.setRun r fun run => { run with channel := rest } := by
  unfold receive? at h
  cases hrun : s.runs[r]? with
  | none => simp [hrun] at h
  | some run =>
    simp only [hrun, Option.bind_eq_bind, Option.bind_some] at h
    split at h
    · cases h
    next head rest channel =>
      split at h
      · cases h
      next kept =>
        obtain ⟨rfl, rfl⟩ : head = m ∧ _ = t := by simpa using h
        exact ⟨run, rest, rfl, channel, by simpa using kept, rfl⟩

/-- Nothing is left behind where only one run changes, and that one has its messages swept. -/
theorem Swept.of_own (swept : s.Swept) (workers : t.workers = s.workers)
    (others : ∀ r', r' ≠ r → t.runs[r']? = s.runs[r']?)
    (own : ∀ run, t.runs[r]? = some run → run.isAbandoned = true → t.isDeserted r = true →
      run.channel = []) : t.Swept := by
  intro r' run hrun abandoned deserted
  by_cases same : r' = r
  · subst same
    exact own run hrun abandoned deserted
  · rw [others r' same] at hrun
    rw [isDeserted, workers] at deserted
    exact swept r' run hrun abandoned deserted

theorem Swept.cancel (swept : s.Swept) (r : Nat) : (s.cancel r).Swept := by
  refine swept.of_own rfl (setRun_frame s _).2 fun run hrun abandoned deserted => ?_
  rw [Intake.cancel, setRun, List.getElem?_modify_eq] at hrun
  obtain ⟨before, h, rfl⟩ := Option.map_eq_some_iff.1 hrun
  exact swept r before h abandoned deserted

theorem Swept.close (swept : s.Swept) (r : Nat) : (s.close r).Swept := by
  unfold Intake.close
  split
  next run h =>
    obtain ⟨-, workers, runs⟩ := handBack_frame s run.channel
    refine swept.of_own (r := r) workers (fun r' other => ?_) fun after hafter _ _ => ?_
    · rw [(setRun_frame (s.handBack run.channel) _).2 r' other, runs]
    · rw [setRun, List.getElem?_modify_eq, runs, h] at hafter
      obtain rfl := Option.some.inj hafter
      rfl
  next => exact swept

theorem Swept.abandon (swept : s.Swept) (r : Nat) : (s.abandon r).Swept := by
  obtain ⟨workers, -, others⟩ := sweep_frame
    (s.setRun r fun run => { run with isClosed := true, isAbandoned := true }) r
  refine swept.of_own (r := r) workers (fun r' other => ?_) fun run => channel_sweep
  exact (others r' other).trans ((setRun_frame s _).2 r' other)

theorem Swept.receive {m : BusMessage} (swept : s.Swept) (h : s.receive? r = some (m, t)) :
    t.Swept := by
  obtain ⟨run, rest, hrun, -, kept, rfl⟩ := receive_eq_some h
  refine swept.of_own (r := r) rfl (setRun_frame _ _).2 fun after hafter abandoned _ => ?_
  rw [setRun, List.getElem?_modify_eq, hrun] at hafter
  obtain rfl := Option.some.inj hafter
  simp [kept] at abandoned

theorem Swept.of_same (swept : s.Swept) (workers : t.workers = s.workers) (runs : t.runs = s.runs) :
    t.Swept := by
  intro r run hrun abandoned deserted
  rw [runs] at hrun
  rw [isDeserted, workers] at deserted
  exact swept r run hrun abandoned deserted

theorem Swept.giveNotice (swept : s.Swept) : s.giveNotice.Swept := by
  obtain ⟨runs, attendance⟩ := giveNotice_frame s
  intro r run hrun abandoned deserted
  rw [runs] at hrun
  rw [isDeserted_congr attendance] at deserted
  exact swept r run hrun abandoned deserted

theorem Swept.start (swept : s.Swept) : s.start.Swept := by
  intro r run hrun abandoned deserted
  rcases Nat.lt_or_ge r s.runs.length with old | new
  · rw [Intake.start, List.getElem?_append_left old] at hrun
    refine swept r run hrun abandoned (isDeserted_iff.2 fun w hw same => ?_)
    exact isDeserted_iff.1 deserted w (List.mem_append_left _ hw) same
  · obtain ⟨bound, -⟩ := List.getElem?_eq_some_iff.1 hrun
    obtain rfl : r = s.runs.length := by
      simp only [Intake.start, List.length_append, List.length_singleton] at bound
      omega
    obtain rfl : {} = run := by simpa [Intake.start] using hrun
    rfl

end Receivers

end Intake

namespace Consumer

open Intake

/-! ## Steps of a run -/

/-- What a step of a run can do. -/
inductive Polled (c : Consumer) (i : Nat) (run : ConsumerRun) (d : Consumer) : Prop where
  /-- It is over, or it finds its channel closed. -/
  | left (waits : run.phase = .waiting)
      (ends : c.isOver run = true ∨ c.isOver run = false ∧ c.intake.receive? run.run = none ∧
        c.intake.isDeserted run.run = true)
      (next : d = c.leave i run)
  | took {m : BusMessage} {s : Intake} {finish : Nat} (waits : run.phase = .waiting)
      (goesOn : c.isOver run = false) (received : c.intake.receive? run.run = some (m, s))
      (next : d = { c.setRun i { run with phase := .handling m c.intake.now finish } with
        intake := s })
  /-- It cannot even begin with a message. -/
  | broke {m : BusMessage} {s : Intake} {finish : Nat}
      (waits : run.phase = .waiting) (goesOn : c.isOver run = false)
      (received : c.intake.receive? run.run = some (m, s))
      (next : Consumer.cutOff?
        { c.setRun i { run with phase := .handling m c.intake.now finish } with intake := s } i
        { run with phase := .handling m c.intake.now finish } [(c.intake.now, Handler.takenOn)] =
          some d)
  | settled {m : BusMessage} {start finish : Nat} {s : Intake}
      (handles : run.phase = .handling m start finish)
      (held : c.intake.settleHeld? m.id (c.handler.handle m).result.shouldAck = some s)
      (next : d = { c.setRun i { run with
          phase := .waiting
          summary := run.summary.add (c.handler.handle m).result
          effects := run.effects ++ (c.handler.handle m).actsFrom start } with
        intake := s })
  | finished (leaves : run.phase = .leaving) (deserted : c.intake.isDeserted run.run = true)
      (next : d = c.setRun i { run with phase := .finished })

section Steps

variable {queued : List BusMessage} {l : Ledger} {c d : Consumer} {i : Nat} {run : ConsumerRun}

/-- A run that is not over takes a message on that it receives, or breaks at it. -/
theorem take_of_receive {m : BusMessage} {s : Intake} (goesOn : c.isOver run = false)
    (received : c.intake.receive? run.run = some (m, s)) :
    c.take? i run =
      let finish := c.intake.now + (c.handler.handle m).duration
      let taken : ConsumerRun := { run with phase := .handling m c.intake.now finish }
      let d : Consumer := { c.setRun i taken with intake := s }
      if c.handler.hasDeadline c.intake.now then some d
      else d.cutOff? i taken [(c.intake.now, Handler.takenOn)] := by
  rw [take?, if_neg (by simp [goesOn]), received]
  rfl

theorem poll_eq_some (h : c.poll? i = some d) :
    ∃ run, c.runs[i]? = some run ∧ Polled c i run d := by
  unfold poll? at h
  cases hrun : c.runs[i]? with
  | none => simp [hrun] at h
  | some run =>
    refine ⟨run, rfl, ?_⟩
    simp only [hrun, Option.bind_eq_bind, Option.bind_some] at h
    cases phase : run.phase with
    | waiting =>
      simp only [phase, take?] at h
      cases isOver : c.isOver run with
      | true =>
        simp only [isOver, if_true, Option.some.injEq] at h
        exact .left phase (.inl isOver) h.symm
      | false =>
        cases received : c.intake.receive? run.run with
        | none =>
          simp only [isOver, received, Bool.false_eq_true, if_false] at h
          split at h <;> cases h
          next deserted => exact .left phase (.inr ⟨isOver, received, deserted⟩) rfl
        | some found =>
          simp only [isOver, received, Bool.false_eq_true, if_false] at h
          split at h
          · exact .took phase isOver received (Option.some.inj h).symm
          · exact .broke phase isOver received h
    | handling m start finish =>
      simp only [phase] at h
      split at h
      · simp only [settle?, Option.bind_eq_bind, Option.bind_eq_some_iff] at h
        obtain ⟨s, held, h⟩ := h
        exact .settled phase held (Option.some.inj h).symm
      · cases h
    | leaving =>
      simp only [phase] at h
      split at h <;> cases h
      next deserted => exact .finished phase deserted rfl
    | finished | aborted => simp [phase] at h

/-- What a run that is cut off has done for the message that it handles. -/
def doneInHand (c : Consumer) (run : ConsumerRun) : List (Nat × Effect) :=
  match run.phase with
  | .handling m start _ => ((c.handler.handle m).until_ (c.intake.now - start)).actsFrom start
  | _ => []

/-- A run that is cut off from outside has done what it could until now. -/
theorem abort_cutOff (h : c.abort? i = some d) :
    ∃ run, c.runs[i]? = some run ∧ c.cutOff? i run (c.doneInHand run) = some d := by
  unfold abort? at h
  cases hrun : c.runs[i]? with
  | none => simp [hrun] at h
  | some run =>
    refine ⟨run, rfl, ?_⟩
    simp only [hrun, Option.bind_eq_bind, Option.bind_some] at h
    cases phase : run.phase with
    | handling m start finish =>
      simp only [phase] at h
      split at h
      · cases h
      · simpa only [doneInHand, phase] using h
    | _ => simpa only [doneInHand, phase] using h

theorem abort_eq_some (h : c.abort? i = some d) :
    ∃ run done, c.runs[i]? = some run ∧ c.cutOff? i run done = some d := by
  obtain ⟨run, hrun, next⟩ := abort_cutOff h
  exact ⟨run, _, hrun, next⟩

theorem cutOff_phase {done : List (Nat × Effect)} (h : c.cutOff? i run done = some d) :
    run.phase ≠ .finished ∧ run.phase ≠ .aborted := by
  unfold cutOff? at h
  constructor <;>
  · intro phase
    simp [phase] at h

/-! ## The invariant -/

/-- What holds of runs and channels on every course. -/
structure Standing (c : Consumer) : Prop where
  told : ∀ (i : Nat) (run : ConsumerRun), c.runs[i]? = some run →
    ∃ o, c.intake.orders[i]? = some o ∧ run.phase.Accords o
  swept : c.intake.Swept

/-- Nobody is told anything. -/
theorem Standing.of_orders (st : Standing c) (orders : d.intake.orders = c.intake.orders)
    (swept : d.intake.Swept)
    (runs : ∀ (i : Nat) (run : ConsumerRun), d.runs[i]? = some run →
      ∃ before : ConsumerRun, c.runs[i]? = some before ∧
        ∀ o, before.phase.Accords o → run.phase.Accords o) : Standing d where
  told i run h := by
    obtain ⟨before, hbefore, same⟩ := runs i run h
    obtain ⟨o, told, accords⟩ := st.told i before hbefore
    exact ⟨o, by rw [orders, told], same o accords⟩
  swept := swept

/-- One run goes on and tells its own intake's run something. -/
theorem Standing.of_setRun {run' : ConsumerRun} (st : Standing c) (change : IntakeRun → IntakeRun)
    (hrun : c.runs[i]? = some run) (runs : d.runs = c.runs.set i run')
    (orders : d.intake.orders = c.intake.orders.modify i change) (swept : d.intake.Swept)
    (accords : ∀ o, run.phase.Accords o → run'.phase.Accords (change o)) : Standing d where
  told j after h := by
    rw [runs] at h
    by_cases same : i = j
    · subst same
      obtain ⟨bound, -⟩ := List.getElem?_eq_some_iff.1 hrun
      obtain rfl : run' = after := by simpa [bound] using h
      obtain ⟨o, told, before⟩ := st.told i run hrun
      exact ⟨change o, by rw [orders, List.getElem?_modify_eq, told]; rfl, accords o before⟩
    · rw [List.getElem?_set_ne same] at h
      obtain ⟨o, told, before⟩ := st.told j after h
      exact ⟨o, by rw [orders, List.getElem?_modify_ne _ _ same, told], before⟩
  swept := swept

/-- A run that is cut off abandons its channel. -/
theorem Standing.cutOff {done : List (Nat × Effect)} (st : Standing c) (number : run.run = i)
    (hrun : c.runs[i]? = some run) (h : c.cutOff? i run done = some d) : Standing d := by
  subst number
  obtain ⟨live, new⟩ := cutOff_phase h
  obtain ⟨s, workers, runs, -, -, rfl⟩ := cutOff_eq_some h
  have orders : s.orders = c.intake.orders := by rw [Intake.orders, runs, Intake.orders]
  refine st.of_setRun _ hrun rfl ((orders_abandon s run.run).trans (by rw [orders]))
    ((st.swept.of_same workers runs).abandon run.run) ?_
  intro o before
  cases phase : run.phase <;> simp_all [ConsumerPhase.Accords]

/-- A run that takes a message tells nobody anything. -/
theorem Standing.receive {m : BusMessage} {s : Intake} {start finish : Nat} (st : Standing c)
    (hrun : c.runs[i]? = some run) (waits : run.phase = .waiting)
    (received : c.intake.receive? run.run = some (m, s)) :
    Standing { c.setRun i { run with phase := .handling m start finish } with intake := s } := by
  have swept := st.swept.receive received
  obtain ⟨own, rest, -, -, -, rfl⟩ := receive_eq_some received
  refine st.of_orders (orders_setChannel _ _ fun _ => rest) swept fun j after h => ?_
  by_cases same : i = j
  · subst same
    obtain ⟨bound, -⟩ := List.getElem?_eq_some_iff.1 hrun
    obtain rfl : _ = after := by simpa [setRun, bound] using h
    exact ⟨run, hrun, fun o before => by rwa [waits] at before⟩
  · exact ⟨after, by simpa [setRun, List.getElem?_set_ne same] using h, fun _ before => before⟩

/-- A run that takes a step tells its intake's run what belongs to the next phase. -/
theorem Standing.poll (st : Standing c) (kept : Kept queued l c) (h : c.poll? i = some d) :
    Standing d := by
  obtain ⟨run, hrun, polled⟩ := poll_eq_some h
  have number := (kept.each i run hrun).number
  obtain ⟨bound, -⟩ := List.getElem?_eq_some_iff.1 hrun
  cases polled with
  | left waits ends next =>
    subst next number
    refine st.of_setRun (fun o => { o with channel := [], isClosed := true, isCancelled := true })
      hrun rfl ?_ ((st.swept.cancel run.run).close run.run) fun o before => ?_
    · show ((c.intake.cancel run.run).close run.run).orders = _
      rw [orders_close, orders_cancel, List.modify_modify_eq]
      rfl
    · rw [waits] at before
      rw [before]
      rfl
  | took waits goesOn received next =>
    subst next
    exact st.receive hrun waits received
  | broke waits goesOn received next =>
    refine Standing.cutOff (st.receive hrun waits received) ?_ ?_ next
    · exact number
    · exact List.getElem?_set_self bound
  | settled handles held next =>
    obtain ⟨workers, runs, -, -⟩ := settleHeld_frame held
    subst next
    refine st.of_setRun id hrun rfl ?_ (st.swept.of_same workers runs) fun o before => ?_
    · simp [Intake.orders, runs]
    · rwa [handles] at before
  | finished leaves deserted next =>
    subst next
    refine st.of_setRun id hrun rfl (by simp [setRun]) st.swept fun o before => ?_
    rwa [leaves] at before

/-- The runs are the same and were told the same. -/
theorem Standing.of_same (st : Standing c) (runs : d.runs = c.runs)
    (orders : d.intake.orders = c.intake.orders) (swept : d.intake.Swept) : Standing d :=
  st.of_orders orders swept fun i run h => ⟨run, by rwa [← runs], fun _ before => before⟩

/-- A new run is told nothing. -/
theorem Standing.start (st : Standing c) (kept : Kept queued l c) : Standing c.start where
  told i run h := by
    have orders : c.start.intake.orders = c.intake.orders ++ [⟨[], false, false, false⟩] := by
      simp [Consumer.start, Intake.start, Intake.orders, IntakeRun.orders]
    have many : c.intake.orders.length = c.runs.length := by
      rw [Intake.orders, List.length_map, kept.runs]
    rw [orders]
    rcases Nat.lt_or_ge i c.runs.length with old | new
    · rw [Consumer.start, List.getElem?_append_left old] at h
      rw [List.getElem?_append_left (by rw [many]; exact old)]
      exact st.told i run h
    · obtain ⟨bound, -⟩ := List.getElem?_eq_some_iff.1 h
      obtain rfl : i = c.runs.length := by
        simp only [Consumer.start, List.length_append, List.length_singleton] at bound
        omega
      obtain rfl : _ = run := by simpa [Consumer.start] using h
      exact ⟨{}, by rw [← many, List.getElem?_concat_length], rfl⟩
  swept := st.swept.start

/-- Every move keeps the invariant. -/
theorem Standing.move {mv : Move} (st : Standing c) (kept : Kept queued l c)
    (h : c.move? mv = some d) : Standing d := by
  cases mv with
  | rehandle handler | lag ms | turn failures staysOpen =>
    cases h
    exact st.of_same rfl rfl (st.swept.of_same rfl rfl)
  | overrun worker =>
    obtain ⟨w, own, t, hw, hown, next, rfl⟩ := overrun_eq_some h
    have step := proceed_stepped hw next
    exact st.of_same rfl step.orders (st.swept.stepped hw step)
  | act a =>
    cases a with
    | push attributes data =>
      cases h
      have pushed : Swept { c.intake with queue := c.intake.queue.push attributes data } :=
        st.swept.of_same rfl rfl
      refine st.of_same rfl ?_ pushed.giveNotice
      show (c.intake.push attributes data).runs.map _ = _
      rw [Intake.push, (giveNotice_frame _).1, Intake.orders]
    | failPull =>
      cases h
      exact st.of_same rfl rfl (st.swept.of_same rfl rfl)
    | start =>
      cases h
      exact st.start kept
    | cancel r =>
      cases h
      refine st.of_orders rfl st.swept fun i after hafter => ?_
      simp only [cancel, List.getElem?_modify] at hafter
      obtain ⟨before, hbefore, rfl⟩ := Option.map_eq_some_iff.1 hafter
      refine ⟨before, hbefore, fun o accords => ?_⟩
      split <;> exact accords
    | abort r =>
      obtain ⟨run, done, hrun, next⟩ := abort_eq_some h
      exact st.cutOff (kept.each r run hrun).number hrun next
    | poll r => exact st.poll kept h
    | work worker =>
      obtain ⟨t, next, rfl⟩ := Option.map_eq_some_iff.1 h
      obtain ⟨w, hw, step⟩ := work_stepped next
      exact st.of_same rfl step.orders (st.swept.stepped hw step)
    | pass ms =>
      obtain rfl := pass_eq_some h
      exact st.of_same rfl rfl (st.swept.of_same rfl rfl)

end Steps

/-- The intake's run of a run that may still take messages is open. -/
theorem Standing.isOpen {c : Consumer} {i : Nat} {run : ConsumerRun} {own : IntakeRun}
    (st : Standing c) (hrun : c.runs[i]? = some run) (going : run.phase.isGoing = true)
    (hown : c.intake.runs[i]? = some own) :
    own.isClosed = false ∧ own.isCancelled = false ∧ own.isAbandoned = false := by
  obtain ⟨o, told, accords⟩ := st.told i run hrun
  have blank : o = ⟨[], false, false, false⟩ := by
    cases phase : run.phase <;> simp_all [ConsumerPhase.isGoing, ConsumerPhase.Accords]
  rw [getElem?_orders, hown, blank] at told
  simpa [IntakeRun.orders] using told

/-- The invariant holds on every course of a consumer that was never started before. -/
theorem Course.standing {limits : Limits} {queue : BusQueue} {handler : Handler} {window : Nat}
    {l : Ledger} {c : Consumer} (course : Course (idle limits queue handler window) l c) :
    Standing c := by
  induction course with
  | initial => exact ⟨by simp [idle], by simp [Swept, idle, ofLimits]⟩
  | move mv before next st => exact st.move before.kept next

end Consumer

end FlagAlerts
