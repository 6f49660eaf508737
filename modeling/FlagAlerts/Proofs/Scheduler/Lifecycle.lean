import FlagAlerts.Proofs.Scheduler.Accounting

/-!
# The life of a scheduler

Whoever owns a scheduler adds jobs, starts it and stops it, in any order and as often as they like,
while its loops work and time goes by. Whether a call is accepted depends on the stage of the
scheduler first, then on the names of the jobs accepted so far, then on the schedule. A call that is
refused leaves everything as it was. The stage goes from idle to running to stopped, or from idle to
stopped at once, and never back, and the scheduler is well until it is stopped.
-/

namespace FlagAlerts

open FlagAlerts.Calendar

/-- What a loop is for does not change. -/
theorem JobLoop.abortRun_same (l : JobLoop) (run : JobRun) :
    (l.abortRun run).job = l.job ∧ (l.abortRun run).schedule = l.schedule := by
  unfold abortRun
  split <;> exact ⟨rfl, rfl⟩

theorem JobLoop.abortAll_same (l : JobLoop) :
    l.abortAll.job = l.job ∧ l.abortAll.schedule = l.schedule := by
  unfold abortAll
  generalize l.runs = runs
  induction runs generalizing l with
  | nil => exact ⟨rfl, rfl⟩
  | cons run rest ih =>
    obtain ⟨job, schedule⟩ := ih (l.abortRun run)
    obtain ⟨job', schedule'⟩ := l.abortRun_same run
    exact ⟨job.trans job', schedule.trans schedule'⟩

theorem JobLoop.step_same {l k : JobLoop} {z : Zone} {grace : Nat} {isStopped : Bool} {c : Clock}
    {a : LoopAction} (next : l.step? z grace isStopped c a = some k) :
    k.job = l.job ∧ k.schedule = l.schedule := by
  cases step_change next with
  | quiet | spawns | begins | ends => exact ⟨rfl, rfl⟩
  | aborts => exact l.abortAll_same

namespace Scheduler

/-- What the owner of a scheduler asks of it. -/
inductive Call where
  | add (job expression : String)
  | start
  | stop
  deriving Repr, DecidableEq, Inhabited

/-- The answer of a scheduler, and what becomes of it; a refused call is without effect. -/
def settle (s : Scheduler) : Except SchedulerError Scheduler → Except SchedulerError Unit × Scheduler
  | .ok t => (.ok (), t)
  | .error e => (.error e, s)

/-- The answer to a call, and the scheduler after it. -/
def call (s : Scheduler) : Call → Except SchedulerError Unit × Scheduler
  | .add job expression => s.settle (s.add job expression)
  | .start => s.settle s.start
  | .stop => (.ok (), s.stop)

/-- The calls so far and their answers, in order. -/
abbrev Log := List (Call × Except SchedulerError Unit)

/-- Whether a scheduler does something by itself. -/
def Action.isOwn : Action → Bool
  | .loop .. | .pass .. => true
  | _ => false

/-- The states that a new scheduler can get into, each with the calls up to then. Between calls its
loops work and time goes by. -/
inductive Life (zone : Zone) (grace : Nat) (wall : Int) : Log → Scheduler → Prop where
  | new : Life zone grace wall [] (.new zone grace wall)
  | called {log : Log} {s : Scheduler} (before : Life zone grace wall log s) (c : Call) :
    Life zone grace wall (log ++ [(c, (s.call c).1)]) (s.call c).2
  | goesOn {log : Log} {s t : Scheduler} {a : Action} (before : Life zone grace wall log s)
    (own : a.isOwn = true) (next : s.step? a = some t) : Life zone grace wall log t

/-- The answers to calls that come one right after another, and the scheduler after them. -/
def callAll (s : Scheduler) : List Call → Log × Scheduler
  | [] => ([], s)
  | c :: rest =>
    let (answers, t) := (s.call c).2.callAll rest
    ((c, (s.call c).1) :: answers, t)

/-- Whatever is asked next is part of the life of a scheduler. -/
theorem Life.callAll {zone : Zone} {grace : Nat} {wall : Int} {log : Log} {s : Scheduler}
    (life : Life zone grace wall log s) (calls : List Call) :
    Life zone grace wall (log ++ (s.callAll calls).1) (s.callAll calls).2 := by
  induction calls generalizing log s with
  | nil =>
    rw [Scheduler.callAll, List.append_nil]
    exact life
  | cons c rest ih =>
    have onward := ih (life.called c)
    rw [List.append_assoc] at onward
    exact onward

/-! ## What the calls tell -/

/-- The job that is accepted with an answer. -/
def acceptedJob? : Call × Except SchedulerError Unit → Option (String × Schedule)
  | (.add job expression, .ok _) => (Schedule.parse? expression).map (job, ·)
  | _ => none

/-- The jobs that were accepted, in order. -/
def accepted (log : Log) : List (String × Schedule) := log.filterMap acceptedJob?

/-- Whether an answer accepts a start. -/
def isStart : Call × Except SchedulerError Unit → Bool
  | (.start, .ok _) => true
  | _ => false

/-- Whether a call is a stop. -/
def isStop : Call × Except SchedulerError Unit → Bool
  | (.stop, _) => true
  | _ => false

/-- Whether a start was accepted. -/
def hasStart (log : Log) : Bool := log.any isStart

/-- Whether there was a stop. -/
def hasStop (log : Log) : Bool := log.any isStop

/-- The stage after calls: a stop is for good, and a start counts until then. -/
def stageAfter (log : Log) : SchedulerStage :=
  if hasStop log then .stopped else if hasStart log then .running else .idle

/-- What holds of a scheduler after calls. Accepted jobs have different names. They wait for the
start, and from then on each has a loop. The stage is the one that the calls tell, and the scheduler
is well unless it is stopped. -/
structure Standing (log : Log) (s : Scheduler) : Prop where
  names : ((accepted log).map (·.1)).Nodup
  waiting : hasStart log = false → s.jobs = accepted log ∧ s.loops = []
  started : hasStart log = true →
    s.jobs = [] ∧ s.loops.map (fun l => (l.job, l.schedule)) = accepted log
  stage : s.stage = stageAfter log
  health : s.health = ⟨"scheduler", if s.stage = .stopped then .unhealthy else .healthy⟩

/-- The calls that are accepted. A job needs an idle scheduler, a new name and a schedule that can
be read. -/
inductive Accepts (log : Log) (s : Scheduler) : Call → Prop where
  | add {job expression : String} {schedule : Schedule} (idle : s.stage = .idle)
    (fresh : job ∉ (accepted log).map (·.1)) (read : Schedule.parse? expression = some schedule) :
    Accepts log s (.add job expression)
  | start (idle : s.stage = .idle) : Accepts log s .start
  | stop : Accepts log s .stop

/-- Why calls are refused: because of the stage, or else of the name, or else of the schedule. -/
inductive Refuses (log : Log) (s : Scheduler) : Call → SchedulerError → Prop where
  | running {c : Call} (late : s.stage = .running) (asks : c ≠ .stop) :
    Refuses log s c .alreadyStarted
  | stopped {c : Call} (late : s.stage = .stopped) (asks : c ≠ .stop) : Refuses log s c .stopped
  | taken {job expression : String} (idle : s.stage = .idle)
    (taken : job ∈ (accepted log).map (·.1)) :
    Refuses log s (.add job expression) (.duplicateJob job)
  | unreadable {job expression : String} (idle : s.stage = .idle)
    (fresh : job ∉ (accepted log).map (·.1)) (unread : Schedule.parse? expression = none) :
    Refuses log s (.add job expression) (.invalidSchedule job expression)

/-- How a scheduler answers its next call, and what the call does. -/
structure Answers (log : Log) (s : Scheduler) : Prop where
  accepts : ∀ c, (s.call c).1 = .ok () ↔ Accepts log s c
  refuses : ∀ c e, (s.call c).1 = .error e ↔ Refuses log s c e
  kept : ∀ c e, (s.call c).1 = .error e → (s.call c).2 = s
  added : ∀ job expression schedule, Schedule.parse? expression = some schedule →
    (s.call (.add job expression)).1 = .ok () →
      (s.call (.add job expression)).2 = { s with jobs := accepted log ++ [(job, schedule)] }
  again : ∀ job expression expression', (s.call (.add job expression)).1 =
      .error (.invalidSchedule job expression) → (Schedule.parse? expression').isSome →
        ((s.call (.add job expression)).2.call (.add job expression')).1 = .ok ()
  started : (s.call .start).1 = .ok () → (s.call .start).2.jobs = [] ∧
    (s.call .start).2.loops = (accepted log).map fun (job, schedule) =>
      { job := job, schedule := schedule, lastTime := s.clock.wall / 1000 }
  twice : (s.call .stop).2.call .stop = (.ok (), (s.call .stop).2)

/-- What a step changes of the stage and the health. -/
structure Moves (s t : Scheduler) : Prop where
  stage : t.stage = s.stage ∨ s.stage = .idle ∧ t.stage = .running ∨
    s.stage ≠ .stopped ∧ t.stage = .stopped
  health : t.health ≠ s.health ↔ s.stage ≠ .stopped ∧ t.stage = .stopped

section Steps

variable {zone : Zone} {grace : Nat} {wall : Int} {log log' : Log} {s t : Scheduler} {c : Call}
  {e e' : SchedulerError}

/-! ## One call -/

/-- The scheduler after a start: every job that waited for it has a loop. -/
def launched (s : Scheduler) : Scheduler :=
  { s with
    stage := .running
    jobs := []
    loops := s.jobs.map fun (job, schedule) =>
      { job := job, schedule := schedule, lastTime := s.clock.wall / 1000 } }

/-- What a call does: its answer and the scheduler after it. -/
inductive Outcome (s : Scheduler) : Call → Except SchedulerError Unit → Scheduler → Prop where
  | running {c : Call} (late : s.stage = .running) (asks : c ≠ .stop) :
    Outcome s c (.error .alreadyStarted) s
  | stopped {c : Call} (late : s.stage = .stopped) (asks : c ≠ .stop) :
    Outcome s c (.error .stopped) s
  | taken {job expression : String} (idle : s.stage = .idle) (taken : job ∈ s.jobs.map (·.1)) :
    Outcome s (.add job expression) (.error (.duplicateJob job)) s
  | unreadable {job expression : String} (idle : s.stage = .idle)
    (fresh : job ∉ s.jobs.map (·.1)) (unread : Schedule.parse? expression = none) :
    Outcome s (.add job expression) (.error (.invalidSchedule job expression)) s
  | adds {job expression : String} {schedule : Schedule} (idle : s.stage = .idle)
    (fresh : job ∉ s.jobs.map (·.1)) (read : Schedule.parse? expression = some schedule) :
    Outcome s (.add job expression) (.ok ()) { s with jobs := s.jobs ++ [(job, schedule)] }
  | starts (idle : s.stage = .idle) :
    Outcome s .start (.ok ()) s.launched
  | stops (goesOn : s.stage ≠ .stopped) :
    Outcome s .stop (.ok ())
      { s with stage := .stopped, health := { s.health with status := .unhealthy } }
  | stopsAgain (halted : s.stage = .stopped) : Outcome s .stop (.ok ()) s

theorem add_of_idle (idle : s.stage = .idle) (job expression : String) :
    s.add job expression =
      if s.jobs.any (·.1 == job) then .error (.duplicateJob job)
      else match Schedule.parse? expression with
        | none => .error (.invalidSchedule job expression)
        | some schedule => .ok { s with jobs := s.jobs ++ [(job, schedule)] } := by
  rw [add, requireIdle, idle]
  by_cases known : s.jobs.any (·.1 == job) = true
  · rw [if_pos known]
    simp [known, bind, Except.bind, throw, throwThe, MonadExceptOf.throw]
  · rw [if_neg known]
    cases read : Schedule.parse? expression <;>
      simp [known, bind, Except.bind, throw, throwThe, MonadExceptOf.throw, pure, Except.pure]

theorem start_of_idle (idle : s.stage = .idle) : s.start = .ok s.launched := by
  rw [start, requireIdle, idle]
  rfl

theorem any_job (jobs : List (String × Schedule)) (job : String) :
    jobs.any (·.1 == job) = true ↔ job ∈ jobs.map (·.1) := by
  simp

/-- A job is added, or else the first thing that stands against it is the answer. -/
theorem call_add (s : Scheduler) (job expression : String) :
    Outcome s (.add job expression) (s.call (.add job expression)).1
      (s.call (.add job expression)).2 := by
  rw [call]
  cases stage : s.stage with
  | running =>
    rw [add, requireIdle, stage]
    exact .running stage (by simp)
  | stopped =>
    rw [add, requireIdle, stage]
    exact .stopped stage (by simp)
  | idle =>
    rw [add_of_idle stage]
    by_cases known : s.jobs.any (·.1 == job) = true
    · rw [if_pos known]
      exact .taken stage ((any_job _ _).1 known)
    · have fresh : job ∉ s.jobs.map (·.1) := fun taken => known ((any_job _ _).2 taken)
      rw [if_neg known]
      cases read : Schedule.parse? expression with
      | none => exact .unreadable stage fresh read
      | some schedule => exact .adds stage fresh read

theorem call_start (s : Scheduler) : Outcome s .start (s.call .start).1 (s.call .start).2 := by
  rw [call]
  cases stage : s.stage with
  | running =>
    rw [start, requireIdle, stage]
    exact .running stage (by simp)
  | stopped =>
    rw [start, requireIdle, stage]
    exact .stopped stage (by simp)
  | idle =>
    rw [start_of_idle stage]
    exact .starts stage

theorem call_stop (s : Scheduler) : Outcome s .stop (s.call .stop).1 (s.call .stop).2 := by
  rw [call, stop]
  split
  next halted => exact .stopsAgain halted
  next goesOn => exact .stops goesOn

theorem call_outcome (s : Scheduler) (c : Call) : Outcome s c (s.call c).1 (s.call c).2 := by
  cases c with
  | add job expression => exact s.call_add job expression
  | start => exact s.call_start
  | stop => exact s.call_stop

/-- A call that is refused leaves everything as it was. -/
theorem call_of_refused (refused : (s.call c).1 = .error e) : (s.call c).2 = s := by
  have outcome := s.call_outcome c
  rw [refused] at outcome
  generalize (s.call c).2 = t at outcome ⊢
  cases outcome <;> rfl

/-! ## What holds after calls -/

theorem accepted_append (log : Log) (c : Call) (answer : Except SchedulerError Unit) :
    accepted (log ++ [(c, answer)]) = accepted log ++ (acceptedJob? (c, answer)).toList := by
  cases more : acceptedJob? (c, answer) <;> simp [accepted, more]

/-- A call that brings no job leaves the accepted ones. -/
theorem accepted_of_none {answer : Except SchedulerError Unit}
    (other : acceptedJob? (c, answer) = none) (log : Log) :
    accepted (log ++ [(c, answer)]) = accepted log := by
  rw [accepted_append, other]
  exact List.append_nil _

theorem hasStart_append (log : Log) (c : Call) (answer : Except SchedulerError Unit) :
    hasStart (log ++ [(c, answer)]) = (hasStart log || isStart (c, answer)) := by
  simp [hasStart]

theorem hasStop_append (log : Log) (c : Call) (answer : Except SchedulerError Unit) :
    hasStop (log ++ [(c, answer)]) = (hasStop log || isStop (c, answer)) := by
  simp [hasStop]

theorem acceptedJob?_error (c : Call) (e : SchedulerError) : acceptedJob? (c, .error e) = none := by
  cases c <;> rfl

theorem isStart_error (c : Call) (e : SchedulerError) : isStart (c, .error e) = false := by
  cases c <;> rfl

theorem Standing.new : Standing [] (.new zone grace wall) where
  names := List.nodup_nil
  waiting := fun _ => ⟨rfl, rfl⟩
  started := by simp [hasStart]
  stage := rfl
  health := rfl

theorem Standing.no_start_of_idle (h : Standing log s) (idle : s.stage = .idle) :
    hasStart log = false ∧ hasStop log = false := by
  have stage := h.stage
  rw [idle, stageAfter] at stage
  split at stage
  · cases stage
  next goesOn =>
    split at stage
    · cases stage
    next waits => exact ⟨by simpa using waits, by simpa using goesOn⟩

/-- While a scheduler is idle, the jobs that were accepted wait for the start. -/
theorem Standing.jobs_of_idle (h : Standing log s) (idle : s.stage = .idle) :
    s.jobs = accepted log :=
  (h.waiting (h.no_start_of_idle idle).1).1

/-- A call that is refused tells nothing. -/
theorem Standing.refused (h : Standing log s) (asks : isStop (c, .error e) = false) :
    Standing (log ++ [(c, .error e)]) s := by
  have same := accepted_of_none (acceptedJob?_error c e) log
  have starts : hasStart (log ++ [(c, .error e)]) = hasStart log := by
    rw [hasStart_append, isStart_error, Bool.or_false]
  have stops : hasStop (log ++ [(c, .error e)]) = hasStop log := by
    rw [hasStop_append, asks, Bool.or_false]
  have stage : stageAfter (log ++ [(c, .error e)]) = stageAfter log := by
    rw [stageAfter, stageAfter, starts, stops]
  exact {
    names := by rw [same]; exact h.names
    waiting := by rw [starts, same]; exact h.waiting
    started := by rw [starts, same]; exact h.started
    stage := h.stage.trans stage.symm
    health := h.health }

theorem isStop_of_ne (asks : c ≠ .stop) (answer : Except SchedulerError Unit) :
    isStop (c, answer) = false := by
  cases c with
  | add | start => rfl
  | stop => exact absurd rfl asks

/-- A job that is accepted waits behind the others. -/
theorem Standing.adds (h : Standing log s) {job expression : String} {schedule : Schedule}
    (idle : s.stage = .idle) (fresh : job ∉ s.jobs.map (·.1))
    (read : Schedule.parse? expression = some schedule) :
    Standing (log ++ [(.add job expression, .ok ())])
      { s with jobs := s.jobs ++ [(job, schedule)] } := by
  obtain ⟨waits, goesOn⟩ := h.no_start_of_idle idle
  obtain ⟨jobs, loops⟩ := h.waiting waits
  have more : accepted (log ++ [(.add job expression, .ok ())]) =
      accepted log ++ [(job, schedule)] := by
    rw [accepted_append, acceptedJob?, read]
    rfl
  have starts : hasStart (log ++ [(.add job expression, .ok ())]) = false := by
    rw [hasStart_append, waits]
    rfl
  have stops : hasStop (log ++ [(.add job expression, .ok ())]) = false := by
    rw [hasStop_append, goesOn]
    rfl
  exact {
    names := by
      rw [jobs] at fresh
      rw [more, List.map_append, List.nodup_append]
      refine ⟨h.names, List.nodup_singleton _, fun name earlier other last => ?_⟩
      rw [List.map_singleton, List.mem_singleton] at last
      rintro rfl
      rw [last] at earlier
      exact fresh earlier
    waiting := by
      intro _
      rw [more, ← jobs]
      exact ⟨rfl, loops⟩
    started := by simp [starts]
    stage := by simp [stageAfter, starts, stops, idle]
    health := h.health }

/-- A start gives each of the jobs that were accepted a loop. -/
theorem Standing.starts (h : Standing log s) (idle : s.stage = .idle) :
    Standing (log ++ [(.start, .ok ())]) s.launched := by
  have jobs := h.jobs_of_idle idle
  have same : accepted (log ++ [(.start, .ok ())]) = accepted log := accepted_of_none rfl log
  have starts : hasStart (log ++ [(.start, .ok ())]) = true := by
    rw [hasStart_append]
    exact Bool.or_true _
  have stops : hasStop (log ++ [(.start, .ok ())]) = false := by
    rw [hasStop_append, (h.no_start_of_idle idle).2]
    rfl
  exact {
    names := by rw [same]; exact h.names
    waiting := by simp [starts]
    started := by
      intro _
      refine ⟨rfl, ?_⟩
      rw [same, ← jobs, launched, List.map_map]
      exact List.map_id _
    stage := by simp [stageAfter, starts, stops, launched]
    health := by
      have healthy := h.health
      rw [idle] at healthy
      simpa [launched] using healthy }

/-- A stop leaves the jobs and the loops where they are. -/
theorem Standing.stops (h : Standing log s) (t : Scheduler) (jobs : t.jobs = s.jobs)
    (loops : t.loops = s.loops) (stage : t.stage = .stopped)
    (health : t.health = ⟨"scheduler", .unhealthy⟩) : Standing (log ++ [(.stop, .ok ())]) t := by
  have same : accepted (log ++ [(.stop, .ok ())]) = accepted log := accepted_of_none rfl log
  have starts : hasStart (log ++ [(.stop, .ok ())]) = hasStart log := by
    rw [hasStart_append]
    exact Bool.or_false _
  have stops : hasStop (log ++ [(.stop, .ok ())]) = true := by
    rw [hasStop_append]
    exact Bool.or_true _
  exact {
    names := by rw [same]; exact h.names
    waiting := by rw [starts, same, jobs, loops]; exact h.waiting
    started := by rw [starts, same, jobs, loops]; exact h.started
    stage := by simp [stageAfter, stops, stage]
    health := by simp [health, stage] }

theorem Standing.called (h : Standing log s) (c : Call) :
    Standing (log ++ [(c, (s.call c).1)]) (s.call c).2 := by
  have outcome := s.call_outcome c
  generalize (s.call c).1 = answer at outcome ⊢
  generalize (s.call c).2 = t at outcome ⊢
  cases outcome with
  | running _ asks | stopped _ asks => exact h.refused (isStop_of_ne asks _)
  | taken | unreadable => exact h.refused rfl
  | adds idle fresh read => exact h.adds idle fresh read
  | starts idle => exact h.starts idle
  | stops goesOn =>
    refine h.stops _ rfl rfl rfl ?_
    rw [h.health]
  | stopsAgain halted =>
    apply h.stops s rfl rfl halted
    rw [h.health, if_pos halted]

/-- What a scheduler does by itself leaves its stage, its health and its jobs alone. -/
theorem own_step {a : Action} (own : a.isOwn = true) (next : s.step? a = some t) :
    t.stage = s.stage ∧ t.health = s.health ∧ t.jobs = s.jobs ∧
      t.loops.map (fun l => (l.job, l.schedule)) = s.loops.map (fun l => (l.job, l.schedule)) := by
  cases a with
  | add | start | stop => cases own
  | loop i a =>
    obtain ⟨l, k, found, step, rfl⟩ := stepLoop?_eq_some next
    obtain ⟨bound, rfl⟩ := List.getElem?_eq_some_iff.1 found
    obtain ⟨job, schedule⟩ := JobLoop.step_same step
    refine ⟨rfl, rfl, rfl, ?_⟩
    rw [List.map_set, job, schedule]
    apply List.ext_getElem
    · simp
    · intro j _ _
      rw [List.getElem_set]
      split
      next same => simp [same]
      next => rfl
  | pass ms wall =>
    simp only [step?] at next
    split at next <;> cases next
    exact ⟨rfl, rfl, rfl, rfl⟩

theorem Standing.goesOn (h : Standing log s) {a : Action} (own : a.isOwn = true)
    (next : s.step? a = some t) : Standing log t := by
  obtain ⟨stage, health, jobs, loops⟩ := own_step own next
  exact {
    names := h.names
    waiting := by
      intro waits
      obtain ⟨jobs', loops'⟩ := h.waiting waits
      rw [loops'] at loops
      exact ⟨jobs.trans jobs', List.map_eq_nil_iff.1 loops⟩
    started := by
      intro started
      obtain ⟨jobs', loops'⟩ := h.started started
      exact ⟨jobs.trans jobs', loops.trans loops'⟩
    stage := stage.trans h.stage
    health := by rw [health, stage]; exact h.health }

theorem Life.standing (life : Life zone grace wall log s) : Standing log s := by
  induction life with
  | new => exact .new
  | called _ c ih => exact ih.called c
  | goesOn _ own next ih => exact ih.goesOn own next

/-! ## What calls are answered -/

theorem Accepts.not_refuses (accepts : Accepts log s c) : ¬ Refuses log s c e := by
  intro refuses
  cases accepts with
  | add idle fresh read =>
    cases refuses with
    | running late | stopped late => simp [idle] at late
    | taken _ taken => exact fresh taken
    | unreadable _ _ unread => simp [read] at unread
  | start idle =>
    cases refuses with
    | running late | stopped late => simp [idle] at late
  | stop =>
    cases refuses with
    | running _ asks | stopped _ asks => exact asks rfl

theorem Refuses.unique (first : Refuses log s c e) (second : Refuses log s c e') : e = e' := by
  cases first <;> cases second <;> simp_all

theorem Standing.decides (h : Standing log s) (c : Call) :
    (s.call c).1 = .ok () ∧ Accepts log s c ∨
      ∃ e, (s.call c).1 = .error e ∧ Refuses log s c e := by
  have outcome := s.call_outcome c
  generalize (s.call c).1 = answer at outcome ⊢
  generalize (s.call c).2 = t at outcome
  cases outcome with
  | running late asks => exact .inr ⟨_, rfl, .running late asks⟩
  | stopped late asks => exact .inr ⟨_, rfl, .stopped late asks⟩
  | taken idle taken =>
    rw [h.jobs_of_idle idle] at taken
    exact .inr ⟨_, rfl, .taken idle taken⟩
  | unreadable idle fresh unread =>
    rw [h.jobs_of_idle idle] at fresh
    exact .inr ⟨_, rfl, .unreadable idle fresh unread⟩
  | adds idle fresh read =>
    rw [h.jobs_of_idle idle] at fresh
    exact .inl ⟨rfl, .add idle fresh read⟩
  | starts idle => exact .inl ⟨rfl, .start idle⟩
  | stops | stopsAgain => exact .inl ⟨rfl, .stop⟩

theorem Standing.call_ok (h : Standing log s) (c : Call) :
    (s.call c).1 = .ok () ↔ Accepts log s c := by
  rcases h.decides c with ⟨answer, accepts⟩ | ⟨e, answer, refuses⟩
  · exact ⟨fun _ => accepts, fun _ => answer⟩
  · constructor
    · intro ok
      rw [answer] at ok
      cases ok
    · intro accepts
      exact absurd refuses accepts.not_refuses

theorem Standing.call_error (h : Standing log s) (c : Call) (e : SchedulerError) :
    (s.call c).1 = .error e ↔ Refuses log s c e := by
  rcases h.decides c with ⟨answer, accepts⟩ | ⟨e', answer, refuses⟩
  · constructor
    · intro error
      rw [answer] at error
      cases error
    · intro refuses
      exact absurd refuses accepts.not_refuses
  · constructor
    · intro error
      rw [answer] at error
      cases error
      exact refuses
    · intro refuses'
      rw [answer, refuses.unique refuses']

theorem Standing.answers (h : Standing log s) : Answers log s where
  accepts := h.call_ok
  refuses := h.call_error
  kept := fun _ _ => call_of_refused
  added := by
    intro job expression schedule read ok
    have outcome := s.call_add job expression
    rw [ok] at outcome
    generalize (s.call (.add job expression)).2 = t at outcome ⊢
    cases outcome with
    | adds idle _ read' =>
      rw [read] at read'
      cases read'
      rw [h.jobs_of_idle idle]
  again := by
    intro job expression expression' refused readable
    obtain ⟨schedule, read⟩ := Option.isSome_iff_exists.1 readable
    rw [call_of_refused refused]
    apply (h.call_ok _).2
    cases (h.call_error _ _).1 refused with
    | unreadable idle fresh _ => exact .add idle fresh read
  started := by
    intro ok
    have outcome := s.call_start
    rw [ok] at outcome
    generalize (s.call .start).2 = t at outcome ⊢
    cases outcome with
    | starts idle =>
      rw [launched, h.jobs_of_idle idle]
      exact ⟨rfl, rfl⟩
  twice := by
    have halted : (s.call .stop).2.stage = .stopped := by
      have outcome := s.call_stop
      generalize (s.call .stop).1 = answer at outcome
      generalize (s.call .stop).2 = t at outcome ⊢
      cases outcome with
      | running _ asks | stopped _ asks => exact absurd rfl asks
      | stops => rfl
      | stopsAgain halted => exact halted
    rw [call, stop, if_pos halted]

/-! ## How the stage moves -/

theorem Standing.moves (h : Standing log s) (after : Standing log' t)
    (stage : t.stage = s.stage ∨ s.stage = .idle ∧ t.stage = .running ∨
      s.stage ≠ .stopped ∧ t.stage = .stopped) : Moves s t where
  stage := stage
  health := by
    rw [h.health, after.health]
    rcases stage with same | ⟨idle, runs⟩ | ⟨goesOn, stops⟩
    · simp [same]
    · simp [idle, runs]
    · simp [goesOn, stops]

theorem Standing.moves_of_call (h : Standing log s) (c : Call) : Moves s (s.call c).2 := by
  apply h.moves (h.called c)
  have outcome := s.call_outcome c
  generalize (s.call c).1 = answer at outcome
  generalize (s.call c).2 = t at outcome ⊢
  cases outcome with
  | running | stopped | taken | unreadable | adds | stopsAgain => exact .inl rfl
  | starts idle => exact .inr (.inl ⟨idle, rfl⟩)
  | stops goesOn => exact .inr (.inr ⟨goesOn, rfl⟩)

/-- In the whole life of a scheduler, the jobs that were accepted have different names, wait in order
for the start, and then have one loop each; every call is answered by what stands against it first,
and changes nothing if it is refused; and neither calls nor the work of loops move the stage other
than forward, with the health turning when the scheduler is stopped. -/
theorem life_is_orderly (life : Life zone grace wall log s) :
    Standing log s ∧ Answers log s ∧ (∀ c, Moves s (s.call c).2) ∧
      ∀ a t, a.isOwn = true → s.step? a = some t → t.stage = s.stage ∧ t.health = s.health := by
  have standing := life.standing
  refine ⟨standing, standing.answers, standing.moves_of_call, fun a t own next => ?_⟩
  obtain ⟨stage, health, -⟩ := own_step own next
  exact ⟨stage, health⟩

/-- Calls of each kind, in each stage. -/
def sampleCalls : List Call :=
  [.add "report" "every tuesday", .add "report" "* * * * *", .add "report" "* * * * *", .start,
    .start, .add "late" "* * * * *", .stop, .stop, .add "late" "* * * * *", .start]

/-- A job is refused for its schedule, accepted with another one, and refused for its name. After the
start and after the stop everything is refused but a stop. -/
theorem sample_life_is_orderly :
    ∃ log s, Life ⟨"UTC", 0, []⟩ 1000 0 log s ∧ Standing log s ∧ Answers log s ∧
      log.map (·.1) = sampleCalls ∧
      log.map (·.2) = [.error (.invalidSchedule "report" "every tuesday"), .ok (),
        .error (.duplicateJob "report"), .ok (), .error .alreadyStarted, .error .alreadyStarted,
        .ok (), .ok (), .error .stopped, .error .stopped] ∧
      (accepted log).map (·.1) = ["report"] ∧ s.stage = .stopped ∧ s.loops.length = 1 := by
  have life : Life ⟨"UTC", 0, []⟩ 1000 0 ([] ++ _) _ := Life.new.callAll sampleCalls
  obtain ⟨standing, answers, -⟩ := life_is_orderly life
  refine ⟨_, _, life, standing, answers, ?_, ?_, ?_, ?_, ?_⟩
  all_goals decide +kernel

end Steps

end Scheduler

end FlagAlerts
