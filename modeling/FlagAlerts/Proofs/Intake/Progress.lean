import FlagAlerts.Proofs.Intake.Standing

/-!
# Workers of an open run

As long as a run was told nothing, its workers hand nothing back. Each of their steps pulls the first
message of the queue, puts a message at the end of the channel, or moves no message; and they leave
only when the queue is empty. A run with one worker keeps the order of the queue.
-/

namespace FlagAlerts

/-- The message that a worker has in this phase. -/
def Phase.cargo : Phase → List BusMessage
  | .weighing m _ | .pacing m _ | .resting m | .sending m => [m]
  | _ => []

namespace Intake

/-- The messages that a run's workers have, in the order of the workers. -/
def transit (workers : List Worker) (r : Nat) : List BusMessage :=
  workers.flatMap fun w => if w.run = r then w.phase.cargo else []

/-- The messages in the channel of a run. -/
def channel (s : Intake) (r : Nat) : List BusMessage := (s.runs[r]?.map (·.channel)).getD []

/-- What a step of a worker does whose run is open. -/
inductive Change (i : Nat) (w : Worker) (s t : Intake) : Prop where
  /-- It goes on with what it has. -/
  | went {v : Worker} (same : v.run = w.run) (cargo : v.phase.cargo = w.phase.cargo)
      (stays : v.phase ≠ .gone) (workers : t.workers = s.workers.set i v) (runs : t.runs = s.runs)
      (queue : t.queue.messages = s.queue.messages)
  | pulled {v : Worker} {m : BusMessage} (same : v.run = w.run) (had : w.phase.cargo = [])
      (cargo : v.phase.cargo = [m]) (stays : v.phase ≠ .gone) (workers : t.workers = s.workers.set i v)
      (runs : t.runs = s.runs) (queue : s.queue.messages = m :: t.queue.messages)
  | sent {v : Worker} {m : BusMessage} (same : v.run = w.run) (had : w.phase.cargo = [m])
      (cargo : v.phase.cargo = []) (stays : v.phase ≠ .gone) (workers : t.workers = s.workers.set i v)
      (runs : t.runs = s.runs.modify w.run fun run => { run with channel := run.channel ++ [m] })
      (queue : t.queue.messages = s.queue.messages)
  /-- It finds the queue empty and closed. -/
  | left (had : w.phase.cargo = []) (workers : t.workers = s.workers.set i { w with phase := .gone })
      (runs : t.runs = s.runs) (empty : s.queue.messages = [])
      (queue : t.queue.messages = s.queue.messages)

/-- A step of a worker whose run is open settles nothing. -/
structure Progress (i : Nat) (w : Worker) (s t : Intake) : Prop where
  settlements : t.settlements = s.settlements
  staysOpen : t.queue.staysOpen = s.queue.staysOpen
  change : Change i w s t

section Steps

variable {s t : Intake} {i : Nat} {w v : Worker} {own : IntakeRun}

/-- Of a run that is not abandoned nothing is swept. -/
theorem sweep_eq_self (hown : s.runs[i]? = some own) (kept : own.isAbandoned = false) :
    s.sweep i = s := by
  simp [sweep, hown, kept]

/-- A worker goes on to another phase with what it has. -/
theorem setPhase_progress (h : s.workers[i]? = some w) (phase : Phase) (stays : phase ≠ .gone)
    (cargo : phase.cargo = w.phase.cargo) (workers : t.workers = (s.setPhase i phase).workers)
    (runs : t.runs = s.runs) (queue : t.queue = s.queue) (settlements : t.settlements = s.settlements) :
    Progress i w s t where
  settlements := settlements
  staysOpen := by rw [queue]
  change := .went (v := { w with phase := phase }) rfl cargo stays
    (workers.trans (workers_setPhase h phase)) runs (by rw [queue])

/-- A worker leaves that finds the queue empty; `u` is the intake with what it had given back. -/
theorem leave_progress (u : Intake) (h : s.workers[i]? = some w) (hown : s.runs[w.run]? = some own)
    (kept : own.isAbandoned = false) (had : w.phase.cargo = []) (empty : s.queue.messages = [])
    (workers : u.workers = s.workers) (runs : u.runs = s.runs) (queue : u.queue = s.queue)
    (settlements : u.settlements = s.settlements) : Progress i w s (u.leave i w.run) := by
  have h' : u.workers[i]? = some w := by rwa [workers]
  have hown' : (u.setPhase i .gone).runs[w.run]? = some own := by rwa [runs_setPhase, runs]
  rw [leave, sweep_eq_self hown' kept]
  exact {
    settlements := settlements
    staysOpen := congrArg BusQueue.staysOpen queue
    change := .left had ((workers_setPhase h' .gone).trans (by rw [workers])) runs empty
      (congrArg BusQueue.messages queue) }

theorem pull_progress (h : s.workers[i]? = some w) (hown : s.runs[w.run]? = some own)
    (kept : own.isAbandoned = false) (phase : w.phase = .pulling) : Progress i w s (s.pull i w) := by
  have had : w.phase.cargo = [] := by rw [phase]; rfl
  simp only [pull, BusQueue.pull]
  by_cases failing : s.queue.failures > 0
  · simp only [failing, if_true]
    refine ⟨rfl, rfl, .went (v := ⟨w.run, .backingOff (s.now + w.retryDelay),
      min (w.retryDelay * 2) lastRetryDelay⟩) rfl had.symm (by simp) rfl rfl rfl⟩
  · simp only [failing, if_false]
    cases messages : s.queue.messages with
    | cons m rest =>
      exact ⟨rfl, rfl, .pulled (v := ⟨w.run, .weighing m none, firstRetryDelay⟩) rfl had rfl (by simp)
        rfl rfl messages⟩
    | nil =>
      cases isOpen : s.queue.staysOpen with
      | false =>
        exact leave_progress
          { s.freeMessage with health := { s.health with status := .unhealthy } }
          h hown kept had messages rfl rfl rfl rfl
      | true =>
        cases noticed : s.queue.hasNotice with
        | true =>
          have same : s.workers = s.workers.set i w := by
            obtain ⟨bound, rfl⟩ := List.getElem?_eq_some_iff.1 h
            rw [List.set_getElem_self]
          exact ⟨rfl, isOpen.symm, .went rfl rfl (by simp [phase]) same rfl messages.symm⟩
        | false =>
          exact setPhase_progress h (.listening s.nextPlace false) (by simp) had.symm rfl rfl rfl rfl

/-- What a worker does that goes on with its task while its run is open. -/
theorem proceed_progress (h : s.workers[i]? = some w) (hown : s.runs[w.run]? = some own)
    (isOpen : own.isClosed = false) (kept : own.isAbandoned = false)
    (next : s.proceed i w own = some t) : Progress i w s t := by
  unfold proceed at next
  split at next
  case h_1 place phase =>
    have had : w.phase.cargo = [] := by rw [phase]; rfl
    split at next
    · cases next
      exact setPhase_progress h .pulling (by simp) had.symm rfl rfl rfl rfl
    · split at next <;> cases next
      exact setPhase_progress h (.asking (some s.nextPlace)) (by simp) had.symm rfl rfl rfl rfl
  case h_2 phase =>
    cases next
    exact pull_progress h hown kept phase
  case h_3 place isNoticed phase =>
    have had : w.phase.cargo = [] := by rw [phase]; rfl
    split at next <;> cases next
    exact setPhase_progress h .pulling (by simp) had.symm rfl rfl rfl rfl
  case h_4 deadline phase =>
    have had : w.phase.cargo = [] := by rw [phase]; rfl
    split at next <;> cases next
    exact setPhase_progress h (.asking none) (by simp) had.symm rfl rfl rfl rfl
  case h_5 m place phase =>
    have had : w.phase.cargo = [m] := by rw [phase]; rfl
    split at next
    · cases next
      exact setPhase_progress h (.pacing m none) (by simp) had.symm rfl rfl rfl rfl
    · split at next <;> cases next
      exact setPhase_progress h (.weighing m (some s.nextPlace)) (by simp) had.symm rfl rfl rfl rfl
  case h_6 m place phase =>
    have had : w.phase.cargo = [m] := by rw [phase]; rfl
    split at next
    · cases next
      unfold takeTurn
      split
      · exact setPhase_progress h (.resting m) (by simp) had.symm rfl rfl rfl rfl
      · exact setPhase_progress h (.sending m) (by simp) had.symm rfl rfl rfl rfl
    · split at next <;> cases next
      exact setPhase_progress h (.pacing m (some s.nextPlace)) (by simp) had.symm rfl rfl rfl rfl
  case h_7 m phase =>
    have had : w.phase.cargo = [m] := by rw [phase]; rfl
    split at next <;> cases next
    exact setPhase_progress h (.sending m) (by simp) had.symm rfl rfl rfl rfl
  case h_8 m phase =>
    have had : w.phase.cargo = [m] := by rw [phase]; rfl
    rw [isOpen, if_neg Bool.false_ne_true] at next
    split at next <;> cases next
    exact ⟨rfl, rfl, .sent (v := { w with phase := .asking none }) rfl had rfl (by simp)
      (workers_setPhase h (.asking none)) rfl rfl⟩
  case h_9 => cases next

/-! ## One worker among others -/

/-- Where a worker's message stands among those of all. -/
theorem transit_set {workers : List Worker} (h : workers[i]? = some w) (same : v.run = w.run) :
    ∃ before after, transit workers w.run = before ++ w.phase.cargo ++ after ∧
      transit (workers.set i v) w.run = before ++ v.phase.cargo ++ after ∧
      ((workers.map (·.run)).count w.run = 1 → before = [] ∧ after = []) := by
  obtain ⟨bound, here⟩ := List.getElem?_eq_some_iff.1 h
  have split : workers = workers.take i ++ w :: workers.drop (i + 1) := by
    rw [← here, ← List.drop_eq_getElem_cons bound, List.take_append_drop]
  refine ⟨transit (workers.take i) w.run, transit (workers.drop (i + 1)) w.run, ?_, ?_,
    fun one => ?_⟩
  · rw [transit, congrArg (List.flatMap _) split]
    simp [transit]
  · rw [List.set_eq_take_append_cons_drop, if_pos bound]
    simp [transit, same]
  · rw [congrArg (List.map _) split] at one
    simp only [List.map_append, List.map_cons, List.count_append, List.count_cons_self] at one
    have none : ∀ ws : List Worker, (ws.map (·.run)).count w.run = 0 → transit ws w.run = [] := by
      intro ws zero
      refine List.flatMap_eq_nil_iff.2 fun x hx => if_neg fun own => ?_
      exact List.count_eq_zero.1 zero (own ▸ List.mem_map_of_mem hx)
    exact ⟨none _ (by omega), none _ (by omega)⟩

/-- The workers of a deserted run have no messages. -/
theorem transit_of_deserted {r : Nat} (h : s.isDeserted r = true) : transit s.workers r = [] := by
  refine List.flatMap_eq_nil_iff.2 fun w hw => ?_
  by_cases own : w.run = r
  · rw [if_pos own, isDeserted_iff.1 h w hw own]
    rfl
  · rw [if_neg own]

end Steps

end Intake

end FlagAlerts
