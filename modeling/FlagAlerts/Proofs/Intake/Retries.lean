import FlagAlerts.Proofs.Intake.Pacing

/-!
# Waits after failed pulls

A worker whose pull fails waits before it goes on, each time twice as long as the time before, but never
longer than half a minute. A message that it pulls puts it back to the shortest wait. Whatever else
happens meanwhile, the wait ends at its very instant, unless the run of the worker is cancelled: then the
worker leaves without another pull, and gives its permit back.

What a worker does about its pulls is noted down as it happens, and an invariant says what becomes of
each failure in the notes.
-/

namespace FlagAlerts

/-- Something that a worker does about its pulls. -/
inductive PullNote where
  | pulled (now : Nat) (found : Pulled)
  /-- It goes on after a wait. -/
  | resumed (now : Nat)
  /-- It leaves during a wait. -/
  | gaveUp (now : Nat)
  deriving DecidableEq

namespace PullNote

/-- When it was done. -/
def instant : PullNote → Nat
  | .pulled now _ | .resumed now | .gaveUp now => now

/-- How many pulls in a row have failed with this one, if so many had before it. -/
def count (failures : Nat) : PullNote → Nat
  | .pulled _ (.message _) => 0
  | .pulled _ .failure => failures + 1
  | _ => failures

end PullNote

/-- How a worker stands to its pulls. -/
inductive PullStage where
  | active
  | waiting (deadline : Nat)
  | gone
  deriving DecidableEq

/-- How a worker in a phase stands to its pulls. -/
def Phase.pullStage : Phase → PullStage
  | .backingOff deadline => .waiting deadline
  | .gone => .gone
  | _ => .active

/-- What the next step of a worker in a phase is noted as. -/
def Phase.pullNote? (now : Nat) (found : Pulled) (isCancelled : Bool) : Phase → Option PullNote
  | .pulling => if isCancelled then none else some (.pulled now found)
  | .backingOff _ => some (if isCancelled then .gaveUp now else .resumed now)
  | _ => none

/-- How long a worker will wait, and how it stands to its pulls. -/
def Worker.retry (w : Worker) : Nat × PullStage := (w.retryDelay, w.phase.pullStage)

namespace Intake

/-- How many pulls have failed since the last message, or since the worker was started. -/
def failures (notes : List PullNote) : Nat := notes.foldl PullNote.count 0

/-- The wait after so many pulls in a row that failed. -/
def retryWait (n : Nat) : Nat := min (firstRetryDelay * 2 ^ (n - 1)) lastRetryDelay

/-- What the next step of a worker is noted as. -/
def pullNote? (s : Intake) (i : Nat) : Option PullNote := do
  let w ← s.workers[i]?
  let run ← s.runs[w.run]?
  w.phase.pullNote? s.now s.queue.pull.1 run.isCancelled

/-- What is noted of a worker with an action. -/
def pullNotes (s : Intake) (i : Nat) : IntakeAction → List PullNote
  | .work j => if j = i then (s.pullNote? i).toList else []
  | _ => []

/-- The courses of an intake, with what is noted of one of its workers. -/
inductive Tried (limits : Limits) (queue : BusQueue) (i : Nat) : List PullNote → Intake → Prop where
  | initial : Tried limits queue i [] (.ofLimits limits queue)
  | step {notes : List PullNote} {s t : Intake} (a : IntakeAction)
    (before : Tried limits queue i notes s) (next : s.step? a = some t) :
    Tried limits queue i (notes ++ s.pullNotes i a) t

/-- What comes after a failure with a wait up to an instant: the wait, which is not over, or the end of
the wait at this instant, or before it the end of the worker. -/
inductive AfterFailure (deadline : Nat) : List PullNote → Nat → PullStage → Prop where
  | waits {now : Nat} (inTime : now ≤ deadline) : AfterFailure deadline [] now (.waiting deadline)
  | resumed (rest : List PullNote) (now : Nat) (stage : PullStage) :
    AfterFailure deadline (.resumed deadline :: rest) now stage
  | gaveUp {left : Nat} (now : Nat) (inTime : left ≤ deadline) :
    AfterFailure deadline [.gaveUp left] now .gone

/-- What a worker does about its pulls up to now. -/
structure Retried (notes : List PullNote) (now : Nat) (retry : Nat × PullStage) : Prop where
  past : ∀ n ∈ notes, n.instant ≤ now
  ordered : notes.Pairwise fun n n' => n.instant ≤ n'.instant
  delay : retry.1 = retryWait (failures notes + 1)
  waits : ∀ before failed after, notes = before ++ .pulled failed .failure :: after →
    AfterFailure (failed + retryWait (failures before + 1)) after now retry.2

/-- A worker leaves during its wait: it takes nothing from the queue and gives its permit back, besides
those of messages that are settled as the last worker leaves. -/
structure LeavesWait (s t : Intake) (i : Nat) : Prop where
  queue : t.queue = s.queue
  gone : t.workers[i]?.map (·.phase) = some .gone
  permit : t.freeMessages + s.settlements.length = s.freeMessages + 1 + t.settlements.length

/-- What a worker does about its pulls, with what is noted of it. -/
structure Retries (notes : List PullNote) (s : Intake) (i : Nat) (w : Worker) : Prop where
  retried : Retried notes s.now w.retry
  /-- No wait is longer than half a minute, and twice a wait is a 64-bit number. -/
  bounded : w.retryDelay ≤ lastRetryDelay ∧ w.retryDelay * 2 ≤ maxUInt64
  /-- A worker that waits leaves if it is cancelled, and else goes on when its wait is over. -/
  ends : ∀ deadline, w.phase = .backingOff deadline →
    ∃ run, s.runs[w.run]? = some run ∧
      (run.isCancelled = true → ∃ t, s.work? i = some t ∧ LeavesWait s t i) ∧
      (run.isCancelled = false → deadline ≤ s.now →
        ∃ t, s.work? i = some t ∧ t.workers[i]?.map (·.phase) = some (.asking none))

/-! ## Numbers -/

section Numbers

theorem failures_append (notes : List PullNote) (n : PullNote) :
    failures (notes ++ [n]) = n.count (failures notes) := by
  rw [failures, List.foldl_append]
  rfl

theorem retryWait_le (n : Nat) : retryWait n ≤ lastRetryDelay := Nat.min_le_right _ _

/-- The wait doubles with each failure, up to its bound. -/
theorem retryWait_succ (n : Nat) : retryWait (n + 2) = min (retryWait (n + 1) * 2) lastRetryDelay := by
  have doubled : firstRetryDelay * 2 ^ (n + 1) = firstRetryDelay * 2 ^ n * 2 := by
    rw [Nat.pow_succ, Nat.mul_assoc]
  simp only [retryWait, Nat.add_sub_cancel, show n + 2 - 1 = n + 1 from rfl, doubled]
  omega

end Numbers

/-! ## Steps of workers -/

/-- How all workers stand to their pulls. -/
def retries (s : Intake) : List (Nat × PullStage) := s.workers.map Worker.retry

/-- What a step of a worker at an instant does to how it stands to its pulls, with what is noted. -/
inductive RetryStep (now : Nat) :
    List PullNote → Nat × PullStage → Nat × PullStage → Prop where
  | apart (delay : Nat) : RetryStep now [] (delay, .active) (delay, .active)
  | leaves (delay : Nat) : RetryStep now [] (delay, .active) (delay, .gone)
  | finds (delay : Nat) (m : BusMessage) :
    RetryStep now [.pulled now (.message m)] (delay, .active) (firstRetryDelay, .active)
  | findsNothing (delay : Nat) :
    RetryStep now [.pulled now .nothing] (delay, .active) (delay, .active)
  | findsClosed (delay : Nat) : RetryStep now [.pulled now .closed] (delay, .active) (delay, .gone)
  | fails (delay : Nat) :
    RetryStep now [.pulled now .failure] (delay, .active)
      (min (delay * 2) lastRetryDelay, .waiting (now + delay))
  | resumes (delay : Nat) {deadline : Nat} (due : deadline ≤ now) :
    RetryStep now [.resumed now] (delay, .waiting deadline) (delay, .active)
  | givesUp (delay deadline : Nat) :
    RetryStep now [.gaveUp now] (delay, .waiting deadline) (delay, .gone)

section Steps

variable {s t : Intake} {i : Nat} {w v : Worker} {own : IntakeRun}

theorem retries_set {retry : Nat × PullStage} (workers : t.workers = s.workers.set i v)
    (same : v.retry = retry) : t.retries = s.retries.set i retry := by
  rw [retries, workers, List.map_set, same, retries]

theorem retries_setPhase (h : s.workers[i]? = some w) (phase : Phase) :
    (s.setPhase i phase).retries = s.retries.set i (w.retryDelay, phase.pullStage) :=
  retries_set (workers_setPhase h phase) rfl

theorem retries_sweep (s : Intake) (r : Nat) : (s.sweep r).retries = s.retries := by
  rw [retries, (sweep_frame s r).1, retries]

/-- Nobody minds a notice that waits after a failed pull. -/
theorem retry_notified (w : Worker) (place : Nat) (listens : w.phase = .listening place false) :
    Worker.retry { w with phase := .listening 0 true } = w.retry := by
  rw [Worker.retry, Worker.retry, listens]
  rfl

/-- A worker leaves; `u` is the intake with what it had given back. -/
theorem leave_retries (u : Intake) (h : s.workers[i]? = some w) (workers : u.workers = s.workers) :
    (u.leave i w.run).retries = s.retries.set i (w.retryDelay, .gone) := by
  have h' : u.workers[i]? = some w := by rwa [workers]
  have gone := retries_setPhase h' .gone
  rw [leave, retries_sweep, gone, retries, workers, retries]
  rfl

theorem quit_retries (h : s.workers[i]? = some w) (next : s.quit i w = some t) :
    ∃ retry, RetryStep s.now (w.phase.pullNote? s.now s.queue.pull.1 true).toList w.retry retry ∧
      t.retries = s.retries.set i retry := by
  rw [Worker.retry]
  unfold quit at next
  split at next
  case h_4 deadline phase =>
    cases next
    rw [phase]
    exact ⟨_, .givesUp _ deadline, leave_retries s.freeMessage h rfl⟩
  case h_5 place phase =>
    cases next
    rw [phase]
    refine ⟨_, .leaves _, ?_⟩
    have gone := retries_setPhase (s := s.freeMessage) h .gone
    rw [retries_sweep, retries, map_giveNotice Worker.retry retry_notified]
    exact gone
  case h_9 | h_10 => cases next
  all_goals
    next phase =>
      cases next
      rw [phase]
      exact ⟨_, .leaves _, leave_retries _ h rfl⟩

/-- Setting what is there already changes nothing. -/
theorem retries_unset (h : s.workers[i]? = some w) (active : w.phase.pullStage = .active) :
    s.retries.set i (w.retryDelay, .active) = s.retries := by
  have present : s.retries[i]? = some (w.retryDelay, .active) := by
    simp [retries, h, Worker.retry, active]
  obtain ⟨bound, at_⟩ := List.getElem?_eq_some_iff.1 present
  rw [← at_, List.set_getElem_self]

/-- What a worker does that pulls. -/
theorem pull_retries (h : s.workers[i]? = some w) (active : w.phase.pullStage = .active) :
    ∃ retry, RetryStep s.now [.pulled s.now s.queue.pull.1] (w.retryDelay, .active) retry ∧
      (s.pull i w).retries = s.retries.set i retry := by
  simp only [pull, BusQueue.pull]
  by_cases failing : s.queue.failures > 0
  · simp only [failing, if_true]
    exact ⟨_, .fails _, retries_set rfl rfl⟩
  · simp only [failing, if_false]
    cases s.queue.messages with
    | cons m rest => exact ⟨_, .finds _ m, retries_set rfl rfl⟩
    | nil =>
      cases s.queue.staysOpen with
      | false => exact ⟨_, .findsClosed _, leave_retries _ h rfl⟩
      | true =>
        cases noticed : s.queue.hasNotice with
        | true => exact ⟨_, .findsNothing _, (retries_unset h active).symm⟩
        | false =>
          have joined := retries_setPhase h (.listening s.nextPlace false)
          exact ⟨_, .findsNothing _, joined⟩

/-- What a worker does that goes on with its task. -/
theorem proceed_retries (h : s.workers[i]? = some w) (next : s.proceed i w own = some t) :
    ∃ retry, RetryStep s.now (w.phase.pullNote? s.now s.queue.pull.1 false).toList w.retry retry ∧
      t.retries = s.retries.set i retry := by
  -- a worker that goes on to a phase in which it does not wait after a pull
  have onward {phase : Phase} (workers : t.workers = (s.setPhase i phase).workers)
      (active : phase.pullStage = .active) :
      ∃ retry, RetryStep s.now [] (w.retryDelay, .active) retry ∧
        t.retries = s.retries.set i retry :=
    ⟨_, .apart _, retries_set (workers.trans (workers_setPhase h phase))
      (congrArg (Prod.mk w.retryDelay) active)⟩
  rw [Worker.retry]
  unfold proceed at next
  split at next
  case h_1 place phase =>
    rw [phase]
    split at next
    · cases next
      exact onward rfl rfl
    · split at next <;> cases next
      exact onward rfl rfl
  case h_2 phase =>
    cases next
    rw [phase]
    exact pull_retries h (by rw [phase]; rfl)
  case h_3 place isNoticed phase =>
    rw [phase]
    split at next <;> cases next
    exact onward rfl rfl
  case h_4 deadline phase =>
    rw [phase]
    split at next <;> cases next
    next due => exact ⟨_, .resumes _ due, retries_setPhase (s := s.freeMessage) h _⟩
  case h_5 m place phase =>
    rw [phase]
    split at next
    · cases next
      exact onward rfl rfl
    · split at next <;> cases next
      exact onward rfl rfl
  case h_6 m place phase =>
    rw [phase]
    split at next
    · cases next
      unfold takeTurn
      split <;> exact ⟨_, .apart _, retries_setPhase h _⟩
    · split at next <;> cases next
      exact onward rfl rfl
  case h_7 m phase =>
    rw [phase]
    split at next <;> cases next
    exact onward rfl rfl
  case h_8 m phase =>
    rw [phase]
    split at next
    · cases next
      exact ⟨_, .leaves _, leave_retries (s.settle m false) h rfl⟩
    · split at next <;> cases next
      exact onward rfl rfl
  case h_9 => cases next

/-- Every step of a worker is one of those that have to do with its pulls, or leaves its delay as it
is. -/
theorem work_retries (next : s.work? i = some t) :
    ∃ w retry, s.workers[i]? = some w ∧
      RetryStep s.now (s.pullNote? i).toList w.retry retry ∧ t.retries = s.retries.set i retry := by
  unfold work? at next
  unfold pullNote?
  cases h : s.workers[i]? with
  | none => simp [h] at next
  | some w =>
    cases hrun : s.runs[w.run]? with
    | none => simp [h, hrun] at next
    | some run =>
      simp only [h, hrun, Option.bind_eq_bind, Option.bind_some] at next ⊢
      rcases ite_eq_iff.1 next with ⟨told, leaves⟩ | ⟨free, stays⟩
      · rw [(Bool.and_eq_true_iff.1 told).1]
        obtain ⟨retry, step, retries⟩ := quit_retries h leaves
        exact ⟨w, retry, rfl, step, retries⟩
      · -- a message on its way into the channel is no matter of pulls, cancelled or not
        have uncancelled : w.phase.pullNote? s.now s.queue.pull.1 run.isCancelled =
            w.phase.pullNote? s.now s.queue.pull.1 false := by
          cases cancelled : run.isCancelled with
          | false => rfl
          | true => cases phase : w.phase <;> simp_all [Phase.pullNote?]
        rw [uncancelled]
        obtain ⟨retry, step, retries⟩ := proceed_retries h stays
        exact ⟨w, retry, rfl, step, retries⟩

/-- Every message that is handed back frees a message permit. -/
theorem handBack_permits (s : Intake) (ms : List BusMessage) :
    (s.handBack ms).freeMessages + s.settlements.length =
      s.freeMessages + (s.handBack ms).settlements.length := by
  induction ms generalizing s with
  | nil => rfl
  | cons m rest ih =>
    have later := ih (s.settle m false)
    simp only [settle, settleLight, freeMessage, List.length_append, List.length_singleton] at later
    show ((s.settle m false).handBack rest).freeMessages + _ =
      _ + ((s.settle m false).handBack rest).settlements.length
    simp only [settle, settleLight, freeMessage]
    omega

/-- A sweep frees the permits of the messages that it settles, and leaves the queue alone. -/
theorem sweep_permits (s : Intake) (r : Nat) :
    (s.sweep r).queue = s.queue ∧
      (s.sweep r).freeMessages + s.settlements.length =
        s.freeMessages + (s.sweep r).settlements.length := by
  unfold sweep
  split
  next run _ =>
    split
    · exact ⟨(handBack_frame s run.channel).1, handBack_permits s run.channel⟩
    · exact ⟨rfl, rfl⟩
  next => exact ⟨rfl, rfl⟩

/-- A worker that waits after a failed pull leaves if its run is cancelled, and goes on when its wait is
over. -/
theorem work?_of_backingOff {deadline : Nat} (h : s.workers[i]? = some w)
    (hrun : s.runs[w.run]? = some own) (phase : w.phase = .backingOff deadline) :
    s.work? i =
      if own.isCancelled then some (s.freeMessage.leave i w.run)
      else if deadline ≤ s.now then some (s.freeMessage.setPhase i (.asking none))
      else none := by
  unfold work?
  simp only [h, hrun, phase, Option.bind_eq_bind, Option.bind_some, quit, proceed]
  cases own.isCancelled <;> rfl

theorem leavesWait (h : s.workers[i]? = some w) :
    LeavesWait s (s.freeMessage.leave i w.run) i := by
  obtain ⟨queue, permits⟩ := sweep_permits (s.freeMessage.setPhase i .gone) w.run
  exact {
    queue := queue
    gone := phase_leave s.freeMessage h rfl
    permit := permits }

end Steps

/-! ## Notes -/

section Notes

variable {now deadline : Nat} {notes new after : List PullNote} {retry retry' : Nat × PullStage}

/-- What is noted of a step is noted at its instant. -/
theorem RetryStep.instant (step : RetryStep now new retry retry') :
    (∀ n ∈ new, n.instant = now) ∧ new.Pairwise fun n n' => n.instant ≤ n'.instant := by
  cases step <;> simp [PullNote.instant]

/-- A step that is a failure begins a wait, and is nothing else. -/
theorem RetryStep.fail {pre rest : List PullNote} {failed : Nat} (step : RetryStep now new retry retry')
    (parts : new = pre ++ .pulled failed .failure :: rest) :
    pre = [] ∧ rest = [] ∧ failed = now ∧ retry'.2 = .waiting (now + retry.1) := by
  cases pre with
  | nil => cases step <;> simp_all
  | cons => cases step <;> simp_all

/-- The delay goes with the failures. -/
theorem RetryStep.delay (step : RetryStep now new retry retry')
    (delay : retry.1 = retryWait (failures notes + 1)) :
    retry'.1 = retryWait (failures (notes ++ new) + 1) := by
  cases step with
  | apart | leaves => rwa [List.append_nil]
  | finds => rw [failures_append]; rfl
  | fails =>
    rw [failures_append]
    simp only at delay ⊢
    rw [delay]
    exact (retryWait_succ _).symm
  | findsNothing | findsClosed | resumes | givesUp => rwa [failures_append]

/-- What comes after a failure goes on with each step. -/
theorem AfterFailure.step (so : AfterFailure deadline after now retry.2)
    (step : RetryStep now new retry retry') : AfterFailure deadline (after ++ new) now retry'.2 := by
  generalize stage : retry.2 = before at so
  cases so with
  | waits inTime =>
    cases step with
    | resumes delay due =>
      cases stage
      obtain rfl : deadline = now := Nat.le_antisymm due inTime
      exact .resumed [] _ _
    | givesUp =>
      cases stage
      exact .gaveUp _ inTime
    | _ => cases stage
  | resumed rest => exact .resumed _ _ _
  | gaveUp _ inTime => cases step <;> cases stage

/-- As time goes by, though not past the end of a wait, nothing else comes after a failure. -/
theorem AfterFailure.later {stage : PullStage} {later : Nat} (so : AfterFailure deadline after now stage)
    (inTime : stage = .waiting deadline → later ≤ deadline) : AfterFailure deadline after later stage := by
  cases so with
  | waits => exact .waits (inTime rfl)
  | resumed rest => exact .resumed rest _ _
  | gaveUp _ early => exact .gaveUp _ early

/-- A worker that was just started has done nothing yet. -/
theorem retried_nil (now : Nat) : Retried [] now (firstRetryDelay, .active) where
  past := by simp
  ordered := .nil
  delay := rfl
  waits := by
    intro before failed after parts
    simp at parts

theorem Retried.step (retried : Retried notes now retry) (step : RetryStep now new retry retry') :
    Retried (notes ++ new) now retry' := by
  obtain ⟨instant, sorted⟩ := step.instant
  refine ⟨?past, ?ordered, step.delay retried.delay, ?waits⟩
  case past =>
    intro n member
    rcases List.mem_append.1 member with old | last
    · exact retried.past n old
    · exact Nat.le_of_eq (instant n last)
  case ordered =>
    refine List.pairwise_append.2 ⟨retried.ordered, sorted, ?_⟩
    intro n old n' last
    rw [instant n' last]
    exact retried.past n old
  case waits =>
    intro before failed after parts
    have begins (pre : List PullNote) (whole : before = notes ++ pre)
        (last : new = pre ++ .pulled failed .failure :: after) :
        AfterFailure (failed + retryWait (failures before + 1)) after now retry'.2 := by
      obtain ⟨rfl, rfl, rfl, waits⟩ := step.fail last
      rw [whole, waits, retried.delay, List.append_nil]
      exact .waits (Nat.le_add_right _ _)
    rcases List.append_eq_append_iff.1 parts with ⟨pre, whole, last⟩ | ⟨rest, whole, last⟩
    · exact begins pre whole last
    · cases rest with
      | nil => exact begins [] (by simpa using whole.symm) last.symm
      | cons n rest =>
        obtain ⟨rfl, rfl⟩ := List.cons.inj last
        exact (retried.waits before failed rest whole).step step

/-- Time goes by, though not past the end of a wait. -/
theorem Retried.later {later : Nat} (retried : Retried notes now retry) (past : now ≤ later)
    (inTime : ∀ deadline, retry.2 = .waiting deadline → later ≤ deadline) :
    Retried notes later retry where
  past n member := Nat.le_trans (retried.past n member) past
  ordered := retried.ordered
  delay := retried.delay
  waits before failed after parts :=
    (retried.waits before failed after parts).later (inTime _)

end Notes

/-! ## Courses -/

section Courses

variable {limits : Limits} {queue : BusQueue} {i : Nat} {notes : List PullNote} {s t : Intake}
  {w : Worker}

/-- What is so of a worker that may not have been started yet. -/
def RetriedAt (notes : List PullNote) (s : Intake) (i : Nat) : Prop :=
  match s.retries[i]? with
  | some retry => Retried notes s.now retry
  | none => notes = []

theorem retriedAt_of_some {retry : Nat × PullStage} (present : s.retries[i]? = some retry)
    (retried : Retried notes s.now retry) : RetriedAt notes s i := by
  rwa [RetriedAt, present]

/-- A worker that nothing happens to goes on as before. -/
theorem RetriedAt.of_same (retried : RetriedAt notes s i) (same : t.retries[i]? = s.retries[i]?)
    (now : t.now = s.now) : RetriedAt notes t i := by
  rwa [RetriedAt, same, now]

/-- New workers have done nothing yet. -/
theorem RetriedAt.start (retried : RetriedAt notes s i) (more : Nat)
    (retries : t.retries = s.retries ++ List.replicate more (firstRetryDelay, .active))
    (now : t.now = s.now) : RetriedAt notes t i := by
  rcases Nat.lt_or_ge i s.retries.length with old | new
  · exact retried.of_same (by rw [retries, List.getElem?_append_left old]) now
  · rw [RetriedAt, List.getElem?_eq_none new] at retried
    subst retried
    unfold RetriedAt
    split
    next retry present =>
      rw [retries, List.getElem?_append_right new] at present
      obtain ⟨-, rfl⟩ := List.mem_replicate.1 (List.mem_of_getElem? present)
      exact retried_nil t.now
    next => rfl

/-- Time does not go past the end of a wait. -/
theorem pass_inTime {ms deadline : Nat} (next : s.pass? ms = some t) (hw : w ∈ s.workers)
    (waits : w.phase.pullStage = .waiting deadline) : t.now ≤ deadline := by
  have phase : w.phase = .backingOff deadline := by
    cases phase : w.phase <;> simp_all [Phase.pullStage]
  have listed : deadline ∈ s.wakeTimes :=
    List.mem_filterMap.2 ⟨w, hw, by rw [phase]; rfl⟩
  unfold pass? at next
  split at next <;> cases next
  next inTime => simpa using List.all_eq_true.1 inTime _ listed

theorem RetriedAt.pass {ms : Nat} (retried : RetriedAt notes s i) (next : s.pass? ms = some t) :
    RetriedAt notes t i := by
  obtain ⟨workers, past⟩ : t.workers = s.workers ∧ s.now ≤ t.now := by
    unfold pass? at next
    split at next <;> cases next
    exact ⟨rfl, Nat.le_add_right _ _⟩
  have same : t.retries = s.retries := by rw [retries, workers, retries]
  unfold RetriedAt at retried ⊢
  rw [same]
  cases hw : s.workers[i]? with
  | none =>
    have absent : s.retries[i]? = none := by simp [retries, hw]
    rwa [absent] at retried ⊢
  | some w =>
    have present : s.retries[i]? = some w.retry := by simp [retries, hw]
    rw [present] at retried ⊢
    exact retried.later past fun deadline => pass_inTime next (List.mem_of_getElem? hw)

/-- A step of the worker itself is noted. -/
theorem RetriedAt.work (retried : RetriedAt notes s i) (next : s.work? i = some t) :
    RetriedAt (notes ++ (s.pullNote? i).toList) t i := by
  obtain ⟨w, retry, hw, step, retries⟩ := work_retries next
  have present : s.retries[i]? = some w.retry := by simp [Intake.retries, hw]
  obtain ⟨bound, -⟩ := List.getElem?_eq_some_iff.1 present
  have after : t.retries[i]? = some retry := by
    rw [retries]
    exact List.getElem?_set_self bound
  rw [RetriedAt, present] at retried
  apply retriedAt_of_some after
  rw [(work_turn next).2.now]
  exact retried.step step

/-- Whatever happens, what is noted of a worker is what becomes of it. -/
theorem RetriedAt.step {a : IntakeAction} (retried : RetriedAt notes s i) (next : s.step? a = some t) :
    RetriedAt (notes ++ s.pullNotes i a) t i := by
  have unnoted (still : RetriedAt notes t i) (quiet : s.pullNotes i a = []) :
      RetriedAt (notes ++ s.pullNotes i a) t i := by
    rwa [quiet, List.append_nil]
  cases a with
  | start =>
    cases next
    refine unnoted (retried.start s.limits.workers ?_ rfl) rfl
    simp [retries, Intake.start, Worker.retry, Phase.pullStage]
  | work j =>
    by_cases own : j = i
    · subst own
      have noted : s.pullNotes j (.work j) = (s.pullNote? j).toList := if_pos rfl
      rw [noted]
      exact retried.work next
    · obtain ⟨w, retry, -, -, retries⟩ := work_retries next
      refine unnoted (retried.of_same ?_ (work_turn next).2.now) (if_neg own)
      rw [retries, List.getElem?_set_ne own]
  | pass ms => exact unnoted (retried.pass next) rfl
  | _ =>
    have aside := aside_of_step next (by simp) (by simp) (by simp)
    have same : t.retries = s.retries := aside.workers Worker.retry retry_notified
    exact unnoted (retried.of_same (by rw [same]) aside.clock.now) rfl

theorem Tried.retriedAt (tried : Tried limits queue i notes s) : RetriedAt notes s i := by
  induction tried with
  | initial => rfl
  | step a _ next ih => exact ih.step next

/-- Every worker belongs to a run. -/
theorem Tried.run_lt (tried : Tried limits queue i notes s) :
    ∀ w ∈ s.workers, w.run < s.runs.length := by
  induction tried with
  | initial => simp [ofLimits]
  | @step notes s t a _ next ih =>
    -- runs stay, and workers stay in them
    have kept (workers : t.workers.map (·.run) = s.workers.map (·.run))
        (runs : t.runs.length = s.runs.length) : ∀ w ∈ t.workers, w.run < t.runs.length := by
      intro w member
      have same : w.run ∈ s.workers.map (·.run) := workers ▸ List.mem_map_of_mem member
      obtain ⟨v, old, run⟩ := List.mem_map.1 same
      rw [runs, ← run]
      exact ih v old
    cases a with
    | start =>
      cases next
      intro w member
      simp only [start, List.length_append, List.length_singleton] at member ⊢
      rcases List.mem_append.1 member with old | new
      · exact Nat.lt_succ_of_lt (ih w old)
      · rw [(List.mem_replicate.1 new).2]
        exact Nat.lt_succ_self _
    | work j =>
      obtain ⟨w, hw, stepped⟩ := work_stepped next
      obtain ⟨hasLeft, attendance⟩ := stepped.attendance
      refine kept ?_ (by simpa [orders] using congrArg List.length stepped.orders)
      have runs := congrArg (List.map Prod.fst) attendance
      have same := runs_set hw (v := w) rfl
      rw [List.map_set] at same
      simpa [Intake.attendance, Function.comp_def, same] using runs
    | pass ms =>
      simp only [step?, pass?] at next
      split at next <;> cases next
      exact ih
    | _ =>
      have aside := aside_of_step next (by simp) (by simp) (by simp)
      exact kept (aside.workers _ fun _ _ _ => rfl) aside.runs

/-- Whatever the pulls of a worker find, and whenever its run is cancelled: after its nth failure in a
row, since it was started or got its last message, the worker waits for a second, for two, and so on
twice as long up to half a minute, and then goes on; or it leaves during the wait, with its permit given
back and without another pull. -/
theorem failed_pulls_are_retried_later (tried : Tried limits queue i notes s)
    (hw : s.workers[i]? = some w) : Retries notes s i w := by
  have present : s.retries[i]? = some w.retry := by simp [retries, hw]
  have retried : Retried notes s.now w.retry := by
    have whole := tried.retriedAt
    rwa [RetriedAt, present] at whole
  have short : w.retryDelay ≤ lastRetryDelay := by
    rw [show w.retryDelay = retryWait (failures notes + 1) from retried.delay]
    exact retryWait_le _
  refine ⟨retried, ⟨short, Nat.le_trans (Nat.mul_le_mul_right 2 short) (by decide)⟩, ?ends⟩
  case ends =>
    intro deadline phase
    have bound : w.run < s.runs.length := tried.run_lt w (List.mem_of_getElem? hw)
    have hrun : s.runs[w.run]? = some s.runs[w.run] := List.getElem?_eq_getElem bound
    have step := work?_of_backingOff hw hrun phase
    refine ⟨_, hrun, ?_, ?_⟩
    · intro cancelled
      exact ⟨_, step.trans (if_pos cancelled), leavesWait hw⟩
    · intro uncancelled due
      rw [uncancelled, if_neg Bool.false_ne_true, if_pos due] at step
      exact ⟨_, step, by simp [setPhase, freeMessage, hw]⟩

/-- The notes and the intake after actions one after another; none if one is not possible. -/
def followTries? (i : Nat) (notes : List PullNote) (s : Intake) :
    List IntakeAction → Option (List PullNote × Intake)
  | [] => some (notes, s)
  | a :: rest => (s.step? a).bind fun t => followTries? i (notes ++ s.pullNotes i a) t rest

/-- A course goes on with actions that are possible. -/
theorem Tried.follow {notes' : List PullNote} {actions : List IntakeAction}
    (tried : Tried limits queue i notes s) (h : followTries? i notes s actions = some (notes', t)) :
    Tried limits queue i notes' t := by
  induction actions generalizing notes s with
  | nil =>
    cases h
    exact tried
  | cons a rest ih =>
    obtain ⟨u, next, h⟩ := Option.bind_eq_some_iff.1 h
    exact ih (tried.step a next) h

end Courses

/-- A worker fails to pull twice and gets a message then; its next pull fails again, and it is cancelled
during the wait. -/
def threeFailures : List IntakeAction :=
  [.failPull, .failPull, .start, .work 0, .work 0, .pass 1000, .work 0, .work 0, .work 0,
    .push [] [], .pass 2000, .work 0, .work 0, .work 0] ++
    [.work 0, .work 0, .work 0, .receive 0, .settle "msg-0" true, .failPull, .work 0, .work 0,
    .pass 400, .cancel 0, .work 0]

/-- The worker waits for one second and for two, and after the message for one second again, of which
it waits 400 ms until it is cancelled. Its permit is free then. -/
theorem third_failure_begins_anew :
    let limits : Limits := ⟨1, 1, 1, 0⟩
    let notes : List PullNote := [.pulled 0 .failure, .resumed 1000, .pulled 1000 .failure,
      .resumed 3000, .pulled 3000 (.message ⟨"msg-0", [], []⟩), .pulled 3000 .failure, .gaveUp 3400]
    ∃ s w, Tried limits { staysOpen := true } 0 notes s ∧ s.workers[0]? = some w ∧
      Retries notes s 0 w ∧ w.phase = .gone ∧ s.freeMessages = limits.messages := by
  intro limits notes
  have outcome : (followTries? 0 [] (.ofLimits limits { staysOpen := true }) threeFailures).map
      (fun x => (x.1, x.2.workers.map (·.phase), x.2.freeMessages)) = some (notes, [.gone], 1) := by
    decide +kernel
  obtain ⟨⟨noted, s⟩, followed, outcome⟩ := Option.map_eq_some_iff.1 outcome
  obtain ⟨rfl, outcome⟩ := Prod.mk.inj outcome
  obtain ⟨phases, free⟩ := Prod.mk.inj outcome
  have tried : Tried limits { staysOpen := true } 0 notes s := Tried.initial.follow followed
  obtain ⟨w, hw, gone⟩ : ∃ w, s.workers[0]? = some w ∧ w.phase = .gone := by
    have first := congrArg (·[0]?) phases
    simp only [List.getElem?_map] at first
    exact Option.map_eq_some_iff.1 first
  exact ⟨s, w, tried, hw, failed_pulls_are_retried_later tried hw, gone, free⟩

end Intake

end FlagAlerts
