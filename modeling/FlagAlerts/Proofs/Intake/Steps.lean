import FlagAlerts.Proofs.Intake.Content

/-!
# What one step moves

Every step of a worker is a flow of the worker's own run: at most one message comes from the queue,
and those that a leaving worker has are handed back. Whatever else happens to an intake moves
nothing between the queue, the workers and the channels.
-/

namespace FlagAlerts.Intake

variable {s t : Intake} {i : Nat} {w : Worker}

/-! ## Changes of a phase -/

/-- A worker goes on with the message that it has. -/
theorem setPhase_flow (h : s.workers[i]? = some w) (phase : Phase) (load : phase.load = w.phase.load)
    (stays : w.phase ≠ .gone) : Flow w.run [] [] [] s (s.setPhase i phase) :=
  flow_of_set h (workers_setPhase h phase) rfl (absurd · stays) rfl rfl (by simp [setPhase])
    (by simp [load])

/-- A worker that has nothing leaves. -/
theorem leave_flow (h : s.workers[i]? = some w) (load : w.phase.load = 0) (stays : w.phase ≠ .gone) :
    ∃ returned, Flow w.run [] returned [] s (s.leave i w.run) := by
  obtain ⟨returned, swept⟩ := sweep_flow (s.setPhase i .gone) w.run
  exact ⟨_, (setPhase_flow h .gone (by rw [load]; rfl) stays).trans swept⟩

/-- A worker leaves and hands back the message that it has; `s'` is the intake with the message
settled. -/
theorem leave_flow_of_load (s' : Intake) {m : BusMessage} (h : s.workers[i]? = some w)
    (load : w.phase.load = {m}) (stays : w.phase ≠ .gone) (workers : s'.workers = s.workers)
    (runs : s'.runs = s.runs) (queue : s'.queue = s.queue)
    (settlements : s'.settlements = s.settlements ++ [m.handedBack]) :
    ∃ returned, Flow w.run [] returned [] s (s'.leave i w.run) := by
  have h' : s'.workers[i]? = some w := by rwa [workers]
  have gone : Flow w.run [] [m] [] s (s'.setPhase i .gone) :=
    flow_of_set (v := { w with phase := .gone }) h
      ((workers_setPhase h' .gone).trans (by rw [workers])) rfl (absurd · stays) runs
      (by simp [setPhase, queue]) (by simp [setPhase, settlements]) (by rw [load]; rfl)
  obtain ⟨returned, swept⟩ := sweep_flow (s'.setPhase i .gone) w.run
  exact ⟨_, gone.trans swept⟩

/-- A notice moves nothing, whoever gets it. -/
theorem giveNotice_flow (s : Intake) (r : Nat) : Flow r [] [] [] s s.giveNotice := by
  simp only [giveNotice]
  split
  next i found =>
    obtain ⟨bound, listens, _⟩ := List.findIdx?_eq_some_iff_getElem.1 found
    have h : s.workers[i]? = some s.workers[i] := List.getElem?_eq_getElem bound
    have notice : Flow s.workers[i].run [] [] [] s (s.setPhase i (.listening 0 true)) := by
      refine setPhase_flow h _ ?_ ?_ <;> cases phase : s.workers[i].phase <;>
        simp_all [Phase.load, Phase.listeningPlace?]
    have everywhere : ∀ r', (s.setPhase i (.listening 0 true)).content r' = s.content r' := by
      intro r'
      by_cases same : r' = s.workers[i].run
      · rw [same]; simpa using notice.balance.symm
      · exact notice.others r' same
    exact { notice with balance := by rw [everywhere]; rfl, others := fun r' _ => everywhere r' }
  next => exact .of_same r rfl rfl rfl rfl

/-- A push adds a message to the queue, and no run notices more of it than the notice. -/
theorem push_frame (s : Intake) (attributes : List (String × String)) (data : List UInt8) :
    (∀ r, Apart r s (s.push attributes data)) ∧
      (s.push attributes data).settlements = s.settlements ∧
      (s.push attributes data).queue.messages =
        s.queue.messages ++ [⟨s.queue.nextId, attributes, data⟩] := by
  have noticed := giveNotice_flow { s with queue := s.queue.push attributes data }
  refine ⟨fun r => ?_, ?_, (noticed 0).queue.symm⟩
  · have pushed : Apart r s { s with queue := s.queue.push attributes data } := .of_same r rfl rfl
    exact pushed.trans (noticed r).toApart
  · exact (noticed 0).settlements.trans (List.append_nil _)

/-! ## Steps of workers -/

/-- What a worker does whose run is cancelled. -/
theorem quit_flow (h : s.workers[i]? = some w) (next : s.quit i w = some t) :
    ∃ returned, Flow w.run [] returned [] s t := by
  unfold quit at next
  split at next
  case h_1 place phase =>
    cases next
    exact leave_flow h (by rw [phase]; rfl) (by simp [phase])
  case h_2 phase | h_3 place phase | h_4 deadline phase =>
    cases next
    obtain ⟨returned, left⟩ := leave_flow (s := s.freeMessage) h (by rw [phase]; rfl)
      (by simp [phase])
    exact ⟨returned, { left with }⟩
  case h_5 place phase =>
    cases next
    have gone : Flow w.run [] [] [] s.freeMessage (s.freeMessage.setPhase i .gone) :=
      setPhase_flow (s := s.freeMessage) h .gone (by rw [phase]; rfl) (by simp [phase])
    obtain ⟨returned, swept⟩ := sweep_flow (s.freeMessage.setPhase i .gone).giveNotice w.run
    have left := (gone.trans (giveNotice_flow _ w.run)).trans swept
    exact ⟨_, { left with }⟩
  case h_6 m place phase =>
    cases next
    exact leave_flow_of_load (s.settleLight m false) h (by rw [phase]; rfl)
      (by simp [phase]) rfl rfl rfl rfl
  case h_7 m place phase | h_8 m phase =>
    cases next
    exact leave_flow_of_load (s.settle m false) h (by rw [phase]; rfl)
      (by simp [phase]) rfl rfl rfl rfl
  case h_9 | h_10 => cases next

/-- A worker pulls: the first message of the queue is its own from now on. -/
theorem pull_flow (h : s.workers[i]? = some w) (phase : w.phase = .pulling) :
    ∃ pulled returned, Flow w.run pulled returned [] s (s.pull i w) := by
  have load : w.phase.load = 0 := by rw [phase]; rfl
  have stays : w.phase ≠ .gone := by simp [phase]
  simp only [pull, BusQueue.pull]
  by_cases failing : s.queue.failures > 0
  · simp only [failing, if_true]
    exact ⟨[], [], flow_of_set h rfl rfl (absurd · stays) rfl rfl (by simp) (by rw [load]; rfl)⟩
  · simp only [failing, if_false]
    cases messages : s.queue.messages with
    | cons m rest =>
      exact ⟨[m], [], flow_of_set h rfl rfl (absurd · stays) rfl (by simp [messages]) (by simp)
        (by rw [load]; rfl)⟩
    | nil =>
      cases s.queue.staysOpen with
      | false =>
        obtain ⟨returned, left⟩ := leave_flow
          (s := { s.freeMessage with health := { s.health with status := .unhealthy } }) h load stays
        exact ⟨[], returned, { left with }⟩
      | true =>
        cases noticed : s.queue.hasNotice with
        | true => exact ⟨[], [], .of_same _ (by simp [messages]) (by simp) (by simp) (by simp)⟩
        | false =>
          have joined : Flow w.run [] [] [] s (s.setPhase i (.listening s.nextPlace false)) :=
            setPhase_flow h _ (by rw [load]; rfl) stays
          exact ⟨[], [], by simpa [noticed] using { joined with }⟩

/-- A worker puts its message into the channel, which is open. -/
theorem send_flow {run : IntakeRun} {m : BusMessage} (h : s.workers[i]? = some w)
    (hrun : s.runs[w.run]? = some run) (phase : w.phase = .sending m) (isOpen : run.isClosed = false) :
    Flow w.run [] [] [] s ((s.setPhase i (.asking none)).setRun w.run fun run =>
      { run with channel := run.channel ++ [m] }) := by
  have workers := workers_setPhase h (.asking none)
  have after : (s.runs.modify w.run fun run => { run with channel := run.channel ++ [m] })[w.run]? =
      some { run with channel := run.channel ++ [m] } := by simp [hrun]
  have moved := fun r => carried_set (r := r) h { w with phase := .asking none } rfl
  exact {
    queue := rfl
    settlements := by simp [setPhase, setRun]
    balance := by
      have own := moved w.run
      simp only [if_true, phase, Phase.load, add_zero] at own
      simp only [content, setRun, workers, runs_setPhase, buffered_of_getElem? hrun,
        buffered_of_getElem? after, ← own, Multiset.coe_nil, ← Multiset.coe_add,
        Multiset.coe_singleton]
      abel
    others := by
      intro r' other
      have same := moved r'
      simp only [Ne.symm other, if_false, add_zero] at same
      simp only [content, setRun, workers, same, runs_setPhase, buffered_modify_ne other]
    shut := by
      rintro r' ⟨run', hrun', isClosed, empty⟩
      have other : w.run ≠ r' := by
        rintro rfl
        simp_all
      exact ⟨run', by simpa [setRun, List.getElem?_modify_ne _ _ other] using hrun', isClosed, empty⟩
    deserted := fun r' => deserted_of_set h workers rfl (by simp [phase])
    runs := by simp [setRun]
    workers := by
      rw [setRun, workers]
      exact runs_set h rfl }

/-- What a worker does that goes on with its task. -/
theorem proceed_flow {run : IntakeRun} (h : s.workers[i]? = some w) (hrun : s.runs[w.run]? = some run)
    (next : s.proceed i w run = some t) : ∃ pulled returned, Flow w.run pulled returned [] s t := by
  unfold proceed at next
  split at next
  case h_1 place phase =>
    have load : w.phase.load = 0 := by rw [phase]; rfl
    have stays : w.phase ≠ .gone := by simp [phase]
    split at next
    · cases next
      exact ⟨[], [], { setPhase_flow h .pulling load.symm stays with }⟩
    · split at next <;> cases next
      exact ⟨[], [], { setPhase_flow h (.asking (some s.nextPlace)) load.symm stays with }⟩
  case h_2 phase =>
    cases next
    exact pull_flow h phase
  case h_3 place isNoticed phase =>
    split at next <;> cases next
    exact ⟨[], [], setPhase_flow h .pulling (by rw [phase]; rfl) (by simp [phase])⟩
  case h_4 deadline phase =>
    split at next <;> cases next
    exact ⟨[], [], { setPhase_flow (s := s.freeMessage) h (.asking none)
      (by rw [phase]; rfl) (by simp [phase]) with }⟩
  case h_5 m place phase =>
    have load : w.phase.load = {m} := by rw [phase]; rfl
    have stays : w.phase ≠ .gone := by simp [phase]
    split at next
    · cases next
      exact ⟨[], [], { setPhase_flow h (.pacing m none) load.symm stays with }⟩
    · split at next <;> cases next
      exact ⟨[], [], { setPhase_flow h (.weighing m (some s.nextPlace)) load.symm stays
        with }⟩
  case h_6 m place phase =>
    have load : w.phase.load = {m} := by rw [phase]; rfl
    have stays : w.phase ≠ .gone := by simp [phase]
    split at next
    · cases next
      unfold takeTurn
      split
      · exact ⟨[], [], setPhase_flow h (.resting m) load.symm stays⟩
      · exact ⟨[], [], { setPhase_flow h (.sending m) load.symm stays with }⟩
    · split at next <;> cases next
      exact ⟨[], [], { setPhase_flow h (.pacing m (some s.nextPlace)) load.symm stays
        with }⟩
  case h_7 m phase =>
    split at next <;> cases next
    exact ⟨[], [], { setPhase_flow h (.sending m) (by rw [phase]; rfl) (by simp [phase])
      with }⟩
  case h_8 m phase =>
    split at next
    · cases next
      obtain ⟨returned, left⟩ := leave_flow_of_load (s.settle m false) h (by rw [phase]; rfl)
        (by simp [phase]) rfl rfl rfl rfl
      exact ⟨[], returned, left⟩
    next notClosed =>
      split at next <;> cases next
      exact ⟨[], [], send_flow h hrun phase (by simpa using notClosed)⟩
  case h_9 => cases next

/-- Every step of a worker is a flow of its run. -/
theorem work_flow (next : s.work? i = some t) :
    ∃ w pulled returned, s.workers[i]? = some w ∧ Flow w.run pulled returned [] s t := by
  unfold work? at next
  cases h : s.workers[i]? with
  | none => simp [h] at next
  | some w =>
    cases hrun : s.runs[w.run]? with
    | none => simp [h, hrun] at next
    | some run =>
      simp only [h, hrun, Option.bind_eq_bind, Option.bind_some] at next
      rcases ite_eq_iff.1 next with ⟨-, leaves⟩ | ⟨-, stays⟩
      · obtain ⟨returned, left⟩ := quit_flow h leaves
        exact ⟨w, [], returned, rfl, left⟩
      · obtain ⟨pulled, returned, went⟩ := proceed_flow h hrun stays
        exact ⟨w, pulled, returned, rfl, went⟩

/-! ## New runs -/

/-- A new run and its workers have no messages. -/
theorem content_start (s : Intake) (r : Nat) : s.start.content r = s.content r := by
  have channels : buffered s.start.runs r = buffered s.runs r := by
    rw [start]
    rcases Nat.lt_trichotomy r s.runs.length with old | rfl | later
    · simp [buffered, List.getElem?_append_left old]
    · simp [buffered]
    · have missing : s.runs.length ≤ r := Nat.le_of_lt later
      simp [buffered, List.getElem?_append_right missing, List.getElem?_eq_none missing,
        Nat.sub_ne_zero_of_lt later]
  rw [content, content, channels]
  simp [start, carried, Phase.load]

theorem IsShut.start {r : Nat} (h : s.IsShut r) : s.start.IsShut r := by
  obtain ⟨run, hrun, rest⟩ := h
  obtain ⟨bound, _⟩ := List.getElem?_eq_some_iff.1 hrun
  exact ⟨run, by simpa [Intake.start, List.getElem?_append_left bound] using hrun, rest⟩

/-- The workers of a new run are not those of an older one. -/
theorem deserted_start {r : Nat} (old : r < s.runs.length) (h : s.isDeserted r = true) :
    s.start.isDeserted r = true := by
  rw [isDeserted_iff] at h ⊢
  intro w hw run
  rcases List.mem_append.1 hw with before | new
  · exact h w before run
  · rw [(List.mem_replicate.1 new).2] at run
    exact absurd run (Nat.ne_of_gt old)

/-- A run that does not exist has no messages. -/
theorem content_of_missing {r : Nat} (workers : ∀ w ∈ s.workers, w.run < r)
    (runs : s.runs.length ≤ r) : s.content r = 0 := by
  have none : carried s.workers r = 0 := by
    apply List.sum_eq_zero
    intro x hx
    obtain ⟨w, hw, rfl⟩ := List.mem_map.1 hx
    simp [Nat.ne_of_lt (workers w hw)]
  simp [content, none, buffered, List.getElem?_eq_none runs]

end FlagAlerts.Intake
