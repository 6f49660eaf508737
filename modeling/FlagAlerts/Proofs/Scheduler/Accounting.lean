import FlagAlerts.Scheduler.Basic
import FlagAlerts.Proofs.Scheduler.Runs
import Mathlib.Data.Prod.Basic

/-!
# What the scheduler counts

The metrics of all loops together fit, for every job, the runs that have begun and those that have
ended: a run is counted when it begins, and once when it ends, with its time and as a success just if
it returned without an error before it was aborted. Once the scheduler is stopped no run is started,
and when the stop is done no run is left.
-/

namespace FlagAlerts

open FlagAlerts.Calendar

namespace Scheduler

/-- The run that returns without an error in an action, with its job. -/
def returning (s : Scheduler) : Action → List (String × Nat)
  | .loop i a => s.loops[i]?.toList.flatMap fun l => (JobLoop.returns a).map (l.job, ·)
  | _ => []

/-- The states that a scheduler can get into, each with the runs that returned up to then. -/
inductive History (start : Scheduler) : List (String × Nat) → Scheduler → Prop where
  | initial : History start [] start
  | step {log : List (String × Nat)} {s t : Scheduler} (a : Action) (before : History start log s)
    (next : s.step? a = some t) : History start (log ++ s.returning a) t

/-- The log and the scheduler after actions, one after another; none if one is refused or not
possible. -/
def follow? (log : List (String × Nat)) (s : Scheduler) :
    List Action → Option (List (String × Nat) × Scheduler)
  | [] => some (log, s)
  | a :: rest => (s.step? a).bind fun t => follow? (log ++ s.returning a) t rest

/-- A history goes on with actions that are possible. -/
theorem History.follow {start s t : Scheduler} {log log' : List (String × Nat)}
    {actions : List Action} (history : History start log s)
    (h : follow? log s actions = some (log', t)) : History start log' t := by
  induction actions generalizing log s with
  | nil =>
    cases h
    exact history
  | cons a rest ih =>
    obtain ⟨next, stepped, h⟩ := Option.bind_eq_some_iff.1 h
    exact ih (history.step a stepped) h

/-- Every state that a scheduler can get into has a history. -/
theorem Reachable.history {start s : Scheduler} (h : Reachable start s) :
    ∃ log, History start log s := by
  induction h with
  | initial => exact ⟨[], .initial⟩
  | step a _ next ih =>
    obtain ⟨log, before⟩ := ih
    exact ⟨_, before.step a next⟩

/-- The number of runs of a job that have begun and not ended. -/
def inFlight (s : Scheduler) (job : String) : Nat :=
  ((s.loops.filter (·.job == job)).flatMap (·.runs)).countP (·.hasBegun)

/-- The books of a scheduler are right: those of its loops are, every job has a name of its own, and
the loops know the runs that returned. -/
structure Accounted (log : List (String × Nat)) (s : Scheduler) : Prop where
  loops : ∀ l ∈ s.loops, l.Accounted
  jobs : (s.jobs.map (·.1)).Nodup
  names : (s.loops.map (·.job)).Nodup
  idle : s.stage = .idle → s.loops = []
  known : ∀ e ∈ log, ∃ l ∈ s.loops, l.job = e.1
  returned : ∀ l ∈ s.loops, (log.filter (·.1 == l.job)).map (·.2) = l.returned
  once : log.Nodup

variable {s t : Scheduler} {log : List (String × Nat)} {a : Action} {l k : JobLoop} {i : Nat}

/-! ## Steps -/

/-- A loop takes a step, and everything else stays. -/
theorem stepLoop?_eq_some {a : LoopAction} (next : s.stepLoop? i a = some t) :
    ∃ l k, s.loops[i]? = some l ∧
      l.step? s.zone s.grace (s.stage == .stopped) s.clock a = some k ∧
      t = { s with loops := s.loops.set i k } := by
  simp only [stepLoop?, Option.bind_eq_bind, Option.bind_eq_some_iff, Option.pure_def,
    Option.some.injEq] at next
  obtain ⟨l, hl, k, hk, rfl⟩ := next
  exact ⟨l, k, hl, hk, rfl⟩

/-- A loop is the only one of its job. -/
theorem split_at_loop (names : (s.loops.map (·.job)).Nodup) (found : s.loops[i]? = some l) :
    ∃ before after, s.loops = before ++ l :: after ∧
      (∀ k, s.loops.set i k = before ++ k :: after) ∧ ∀ x ∈ before ++ after, x.job ≠ l.job := by
  obtain ⟨bound, rfl⟩ := List.getElem?_eq_some_iff.1 found
  have split : s.loops = s.loops.take i ++ s.loops[i] :: s.loops.drop (i + 1) := by
    rw [List.getElem_cons_drop, List.take_append_drop]
  refine ⟨s.loops.take i, s.loops.drop (i + 1), split,
    fun k => List.set_eq_take_append_cons_drop.trans (if_pos bound), fun x hx same => ?_⟩
  rw [split, List.map_append, List.map_cons, List.nodup_middle, List.nodup_cons,
    ← List.map_append] at names
  exact names.1 (same ▸ List.mem_map_of_mem hx)

/-- A run that is still there is not among those that returned. -/
theorem Accounted.absent_of_present (h : Accounted log s) (member : l ∈ s.loops) {run : JobRun}
    (present : run ∈ l.runs) : (l.job, run.number) ∉ log := by
  intro he
  have back : run.number ∈ l.returned := by
    rw [← h.returned l member]
    exact List.mem_map.2 ⟨_, List.mem_filter.2 ⟨he, by simp⟩, rfl⟩
  obtain ⟨e, he, same⟩ := List.mem_map.1 back
  exact (h.loops l member).apart e (List.mem_filter.1 he).1 run present same.symm

/-- A step of a loop keeps the books right. -/
theorem Accounted.stepLoop {a : LoopAction} (h : Accounted log s)
    (next : s.stepLoop? i a = some t) : Accounted (log ++ s.returning (.loop i a)) t := by
  obtain ⟨l, k, found, step, rfl⟩ := stepLoop?_eq_some next
  have member : l ∈ s.loops := List.mem_of_getElem? found
  have kept := (h.loops l member).step step
  obtain ⟨before, after, loops, updated, others⟩ := split_at_loop h.names found
  have entries : s.returning (.loop i a) = (JobLoop.returns a).map (l.job, ·) := by
    simp [returning, found]
  have mem_old (x : JobLoop) : x ∈ s.loops ↔ x = l ∨ x ∈ before ++ after := by
    rw [loops]
    simp only [List.mem_append, List.mem_cons]
    tauto
  have mem_new (x : JobLoop) : x ∈ s.loops.set i k ↔ x = k ∨ x ∈ before ++ after := by
    rw [updated]
    simp only [List.mem_append, List.mem_cons]
    tauto
  have names : (s.loops.set i k).map (·.job) = s.loops.map (·.job) := by
    rw [updated, loops]
    simp [kept.job]
  rw [entries]
  exact {
    loops := by
      intro x hx
      rcases (mem_new x).1 hx with rfl | other
      · exact kept.accounted
      · exact h.loops x ((mem_old x).2 (.inr other))
    jobs := h.jobs
    names := by rw [names]; exact h.names
    idle := by
      intro stage
      have empty := h.idle stage
      rw [empty] at member
      cases member
    known := by
      intro e he
      have known : ∃ x ∈ s.loops, x.job = e.1 := by
        rcases List.mem_append.1 he with old | new
        · exact h.known e old
        · obtain ⟨number, -, rfl⟩ := List.mem_map.1 new
          exact ⟨l, member, rfl⟩
      obtain ⟨x, hx, same⟩ := known
      rcases (mem_old x).1 hx with rfl | other
      · exact ⟨k, (mem_new k).2 (.inl rfl), kept.job.trans same⟩
      · exact ⟨x, (mem_new x).2 (.inr other), same⟩
    returned := by
      intro x hx
      rw [List.filter_append, List.map_append]
      rcases (mem_new x).1 hx with rfl | other
      · rw [kept.job, h.returned l member, kept.returned]
        simp [List.filter_map, Function.comp_def]
      · rw [h.returned x ((mem_old x).2 (.inr other))]
        have foreign := others x other
        simp [List.filter_map, Function.comp_def, Ne.symm foreign]
    once := by
      have distinct : ((JobLoop.returns a).map (l.job, ·)).Nodup :=
        (JobLoop.nodup_returns a).map (Prod.mk_right_injective l.job)
      refine List.nodup_append.2 ⟨h.once, distinct, fun e he e' he' same => ?_⟩
      subst same
      obtain ⟨number, hn, rfl⟩ := List.mem_map.1 he'
      obtain ⟨run, hrun, rfl⟩ := kept.present number hn
      exact h.absent_of_present member hrun he }

/-- A job that is added has a new name. -/
theorem add_eq_some {job expression : String} (next : (s.add job expression).toOption = some t) :
    ∃ schedule, (∀ x ∈ s.jobs, x.1 ≠ job) ∧ t = { s with jobs := s.jobs ++ [(job, schedule)] } := by
  unfold add requireIdle at next
  cases stage : s.stage with
  | idle =>
    cases taken : s.jobs.any (·.1 == job) with
    | true => simp [stage, taken, bind, Except.bind, throw, throwThe, MonadExceptOf.throw,
        Except.toOption] at next
    | false =>
      cases parsed : Schedule.parse? expression with
      | none => simp [stage, taken, parsed, bind, Except.bind, throw, throwThe,
          MonadExceptOf.throw, Except.toOption] at next
      | some schedule =>
        obtain rfl : _ = t := by
          simpa [stage, taken, parsed, bind, Except.bind, pure, Except.pure, Except.toOption]
            using next
        exact ⟨schedule, by simpa using taken, rfl⟩
  | running | stopped => simp [stage, bind, Except.bind, Except.toOption] at next

/-- A start hands every job to a loop of its own. -/
theorem start_eq_some (next : s.start.toOption = some t) :
    s.stage = .idle ∧ t = { s with
      stage := .running
      jobs := []
      loops := s.jobs.map fun (job, schedule) =>
        { job := job, schedule := schedule, lastTime := s.clock.wall / 1000 } } := by
  unfold start requireIdle at next
  cases stage : s.stage with
  | idle =>
    obtain rfl : _ = t := by
      simpa [stage, bind, Except.bind, pure, Except.pure, Except.toOption] using next
    exact ⟨rfl, rfl⟩
  | running | stopped => simp [stage, bind, Except.bind, Except.toOption] at next

/-- A start opens books for loops that have done nothing yet. -/
theorem Accounted.start (h : Accounted log s) (next : s.start.toOption = some t) :
    Accounted (log ++ s.returning .start) t := by
  obtain ⟨idle, rfl⟩ := start_eq_some next
  have nothing : log = [] := by
    apply List.eq_nil_iff_forall_not_mem.2
    intro e he
    obtain ⟨l, hl, -⟩ := h.known e he
    rw [h.idle idle] at hl
    cases hl
  subst nothing
  exact {
    loops := by
      intro l hl
      obtain ⟨⟨job, schedule⟩, -, rfl⟩ := List.mem_map.1 hl
      exact .fresh job schedule _
    jobs := List.nodup_nil
    names := by simpa [Function.comp_def] using h.jobs
    idle := by simp
    known := by simp [returning]
    returned := by
      intro l hl
      obtain ⟨⟨job, schedule⟩, -, rfl⟩ := List.mem_map.1 hl
      rfl
    once := List.nodup_nil }

/-- Every step keeps the books right. -/
theorem Accounted.step (h : Accounted log s) (next : s.step? a = some t) :
    Accounted (log ++ s.returning a) t := by
  cases a with
  | add job expression =>
    obtain ⟨schedule, unused, rfl⟩ := add_eq_some next
    show Accounted (log ++ []) _
    rw [List.append_nil]
    refine { h with jobs := ?_ }
    rw [List.map_append, List.map_singleton, List.nodup_append]
    refine ⟨h.jobs, List.nodup_singleton _, fun name hname other hother => ?_⟩
    obtain ⟨x, hx, rfl⟩ := List.mem_map.1 hname
    rw [List.mem_singleton.1 hother]
    exact unused x hx
  | start => exact h.start next
  | stop =>
    cases next
    show Accounted (log ++ []) s.stop
    rw [List.append_nil, stop]
    split
    · exact h
    · exact { h with idle := by simp }
  | loop i a => exact h.stepLoop next
  | pass ms wall =>
    simp only [step?] at next
    split at next <;> cases next
    show Accounted (log ++ []) _
    rw [List.append_nil]
    exact { h with }

/-- In every state that a new scheduler can get into the books are right. -/
theorem History.accounted {zone : Zone} {grace : Nat} {wall : Int}
    (history : History (.new zone grace wall) log s) : Accounted log s := by
  induction history with
  | initial =>
    exact {
      loops := by simp [new]
      jobs := List.nodup_nil
      names := List.nodup_nil
      idle := fun _ => rfl
      known := by simp
      returned := by simp [new]
      once := List.nodup_nil }
  | step a _ next ih => exact ih.step next

/-- A stop is for good, and no step after it starts a run. -/
theorem Accounted.fired_of_stopped (h : Accounted log s) (stopped : s.stage = .stopped)
    (next : s.step? a = some t) :
    t.stage = .stopped ∧ t.loops.map (·.fired) = s.loops.map (·.fired) := by
  cases a with
  | add job expression =>
    obtain ⟨schedule, -, rfl⟩ := add_eq_some next
    exact ⟨stopped, rfl⟩
  | start =>
    obtain ⟨idle, -⟩ := start_eq_some next
    rw [stopped] at idle
    cases idle
  | stop =>
    cases next
    rw [stop, if_pos stopped]
    exact ⟨stopped, rfl⟩
  | loop i a =>
    obtain ⟨l, k, found, step, rfl⟩ := stepLoop?_eq_some next
    have kept := (h.loops l (List.mem_of_getElem? found)).step step
    obtain ⟨before, after, loops, updated, -⟩ := split_at_loop h.names found
    refine ⟨stopped, ?_⟩
    rw [updated, loops]
    simp [kept.fired (by simp [stopped])]
  | pass ms wall =>
    simp only [step?] at next
    split at next <;> cases next
    exact ⟨stopped, rfl⟩

theorem Reachable.fired_of_stopped (reach : Reachable s t) (h : Accounted log s)
    (stopped : s.stage = .stopped) :
    (∃ log', Accounted log' t) ∧ t.stage = .stopped ∧
      t.loops.map (·.fired) = s.loops.map (·.fired) := by
  induction reach with
  | initial => exact ⟨⟨log, h⟩, stopped, rfl⟩
  | step a _ next ih =>
    obtain ⟨⟨log', accounted⟩, stage, same⟩ := ih
    obtain ⟨stage', same'⟩ := accounted.fired_of_stopped stage next
    exact ⟨⟨_, accounted.step next⟩, stage', same'.trans same⟩

/-! ## Sums over loops -/

/-- What no loop has counted is not among the metrics of all. -/
theorem count_flatMap_metrics {loops : List JobLoop} {m : Metric}
    (never : ∀ l ∈ loops, m ∉ l.metrics) : (loops.flatMap (·.metrics)).count m = 0 := by
  apply List.count_eq_zero.2
  intro hm
  obtain ⟨l, hl, hm⟩ := List.mem_flatMap.1 hm
  exact never l hl hm

/-- A job has a loop or has none. -/
theorem loop_or_absent (s : Scheduler) (job : String) :
    (∃ l ∈ s.loops, l.job = job) ∨ ∀ l ∈ s.loops, l.job ≠ job := by
  by_cases known : ∃ l ∈ s.loops, l.job = job
  · exact .inl known
  · exact .inr fun l hl same => known ⟨l, hl, same⟩

/-- What the scheduler has counted of a job is what the job's loop has. -/
theorem Accounted.count_of_mem (h : Accounted log s) (member : l ∈ s.loops) (outcome : Outcome) :
    s.metrics.count (.jobStarted l.job) = l.metrics.count (.jobStarted l.job) ∧
      s.metrics.count (.jobFinished l.job outcome) =
        l.metrics.count (.jobFinished l.job outcome) ∧
      s.metrics.count (.jobDuration l.job outcome) =
        l.metrics.count (.jobDuration l.job outcome) ∧
      s.inFlight l.job = l.runs.countP (·.hasBegun) := by
  obtain ⟨i, found⟩ := List.getElem?_of_mem member
  obtain ⟨before, after, loops, -, others⟩ := split_at_loop h.names found
  have foreign (m : Metric) (absent : ∀ x ∈ before ++ after, m ∉ x.metrics) :
      s.metrics.count m = l.metrics.count m := by
    have first := count_flatMap_metrics fun x hx => absent x (List.mem_append_left _ hx)
    have last := count_flatMap_metrics fun x hx => absent x (List.mem_append_right _ hx)
    rw [metrics, loops, List.flatMap_append, List.flatMap_cons, List.count_append, List.count_append,
      first, last]
    omega
  have accounted : ∀ x ∈ before ++ after, x.Accounted := by
    intro x hx
    apply h.loops x
    rw [loops]
    rcases List.mem_append.1 hx with first | last
    · exact List.mem_append_left _ first
    · exact List.mem_append_right _ (List.mem_cons_of_mem _ last)
  have absent := fun x hx => (accounted x hx).foreign (others x hx) outcome
  refine ⟨foreign _ fun x hx => (absent x hx).1, foreign _ fun x hx => (absent x hx).2.1,
    foreign _ fun x hx => (absent x hx).2.2, ?_⟩
  have alone : s.loops.filter (·.job == l.job) = [l] := by
    have nobody : (before ++ after).filter (·.job == l.job) = [] :=
      List.filter_eq_nil_iff.2 fun x hx => by simpa using others x hx
    obtain ⟨first, last⟩ := List.append_eq_nil_iff.1 (List.filter_append .. ▸ nobody)
    rw [loops, List.filter_append, List.filter_cons_of_pos (by simp), first, last]
    rfl
  simp [inFlight, alone]

/-- Of a job that no loop has nothing has been counted. -/
theorem Accounted.count_of_absent (h : Accounted log s) {job : String}
    (absent : ∀ l ∈ s.loops, l.job ≠ job) (outcome : Outcome) :
    s.metrics.count (.jobStarted job) = 0 ∧ s.metrics.count (.jobFinished job outcome) = 0 ∧
      s.metrics.count (.jobDuration job outcome) = 0 ∧ s.inFlight job = 0 ∧
      log.countP (·.1 == job) = 0 := by
  have foreign := fun l hl => (h.loops l hl).foreign (absent l hl) outcome
  refine ⟨count_flatMap_metrics fun l hl => (foreign l hl).1,
    count_flatMap_metrics fun l hl => (foreign l hl).2.1,
    count_flatMap_metrics fun l hl => (foreign l hl).2.2, ?_, ?_⟩
  · have nobody : s.loops.filter (·.job == job) = [] :=
      List.filter_eq_nil_iff.2 fun l hl => by simpa using absent l hl
    simp [inFlight, nobody]
  · apply List.countP_eq_zero.2
    intro e he
    obtain ⟨l, hl, same⟩ := h.known e he
    simpa [same] using absent l hl

/-! ## The whole -/

/-- What holds of every job in every state: as many runs were counted as started as were counted as
finished and are still going on; every run that was counted as finished was timed under the same
outcome; and as a success were counted those that returned, each once. -/
structure Balanced (log : List (String × Nat)) (s : Scheduler) : Prop where
  started : ∀ job, s.metrics.count (.jobStarted job) =
    s.metrics.count (.jobFinished job .success) + s.metrics.count (.jobFinished job .fail) +
      s.inFlight job
  timed : ∀ job outcome, s.metrics.count (.jobDuration job outcome) =
    s.metrics.count (.jobFinished job outcome)
  succeeded : ∀ job, s.metrics.count (.jobFinished job .success) = log.countP (·.1 == job)
  once : log.Nodup

/-- Books that are right balance. -/
theorem Accounted.balanced (h : Accounted log s) : Balanced log s where
  started := by
    intro job
    rcases s.loop_or_absent job with ⟨l, hl, rfl⟩ | absent
    · obtain ⟨started, succeeded, -, running⟩ := h.count_of_mem hl .success
      obtain ⟨-, failed, -, -⟩ := h.count_of_mem hl .fail
      have accounted := h.loops l hl
      have ends := JobLoop.countP_outcome l.ended
      rw [started, succeeded, failed, running, accounted.started, accounted.finished,
        accounted.finished]
      omega
    · obtain ⟨started, succeeded, -, running, -⟩ := h.count_of_absent absent .success
      obtain ⟨-, failed, -, -, -⟩ := h.count_of_absent absent .fail
      rw [started, succeeded, failed, running]
  timed := by
    intro job outcome
    rcases s.loop_or_absent job with ⟨l, hl, rfl⟩ | absent
    · obtain ⟨-, finished, timed, -⟩ := h.count_of_mem hl outcome
      rw [finished, timed, (h.loops l hl).timed]
    · obtain ⟨-, finished, timed, -, -⟩ := h.count_of_absent absent outcome
      rw [finished, timed]
  succeeded := by
    intro job
    rcases s.loop_or_absent job with ⟨l, hl, rfl⟩ | absent
    · obtain ⟨-, succeeded, -, -⟩ := h.count_of_mem hl .success
      rw [succeeded, (h.loops l hl).length_returned, ← h.returned l hl, List.length_map,
        List.countP_eq_length_filter]
    · obtain ⟨-, succeeded, -, -, nobody⟩ := h.count_of_absent absent .success
      rw [succeeded, nobody]
  once := h.once

/-- When all loops have finished no run is left. -/
theorem Accounted.runs_of_isStopDone (h : Accounted log s) (done : s.isStopDone = true) :
    ∀ l ∈ s.loops, l.runs = [] := by
  intro l hl
  have finished := List.all_eq_true.1 done l hl
  exact (h.loops l hl).idle (by simpa using finished)

/-- In every state that a scheduler can get into, whatever its runs do, the metrics of every job
balance. Once it is stopped no run is started any more, and when the stop is done no run is left, so
that as many have finished as were started. -/
theorem runs_are_accounted_for {zone : Zone} {grace : Nat} {wall : Int}
    (history : History (.new zone grace wall) log s) :
    Balanced log s ∧
      (s.stage = .stopped → ∀ t, Reachable s t →
        t.stage = .stopped ∧ t.loops.map (·.fired) = s.loops.map (·.fired)) ∧
      (s.stage = .stopped → s.isStopDone = true → (∀ l ∈ s.loops, l.runs = []) ∧
        ∀ job, s.metrics.count (.jobStarted job) =
          s.metrics.count (.jobFinished job .success) +
            s.metrics.count (.jobFinished job .fail)) := by
  have accounted := history.accounted
  refine ⟨accounted.balanced, fun stopped t reach => ?_, fun _ done => ?_⟩
  · exact (reach.fired_of_stopped accounted stopped).2
  · have runs := accounted.runs_of_isStopDone done
    refine ⟨runs, fun job => ?_⟩
    have none : s.inFlight job = 0 := by
      have empty : (s.loops.filter (·.job == job)).flatMap (·.runs) = [] :=
        List.flatMap_eq_nil_iff.2 fun l hl => runs l (List.mem_filter.1 hl).1
      rw [inFlight, empty]
      rfl
    rw [accounted.balanced.started job, none, Nat.add_zero]

/-- A scheduler on Unix time with a grace of one second. -/
def sample : Scheduler := .new ⟨"UTC", 0, []⟩ 1000 0

/-- A job for every second is started once and returns, and then the scheduler is stopped. -/
def sampleActions : List Action :=
  [.add "report" "* * * * * *", .start, .loop 0 .plan, .pass 1000 1000, .loop 0 .fire,
    .loop 0 (.beginRun 0), .loop 0 (.endRun 0 .succeeded), .loop 0 .plan, .stop, .loop 0 .notice]

/-- A run of a job that returns before a stop is counted as started, as finished and as timed. -/
theorem one_run_is_accounted_for :
    ∃ s, History sample [("report", 0)] s ∧ s.stage = .stopped ∧ s.isStopDone = true ∧
      s.metrics = [.jobStarted "report", .jobFinished "report" .success,
        .jobDuration "report" .success] ∧
      Balanced [("report", 0)] s ∧ ∀ l ∈ s.loops, l.runs = [] := by
  have outcome : (follow? [] sample sampleActions).map (fun x =>
      (x.1, x.2.stage, x.2.isStopDone, x.2.metrics)) =
        some ([("report", 0)], .stopped, true, [.jobStarted "report",
          .jobFinished "report" .success, .jobDuration "report" .success]) := by decide +kernel
  obtain ⟨⟨log, s⟩, followed, same⟩ := Option.map_eq_some_iff.1 outcome
  simp only [Prod.mk.injEq] at same
  obtain ⟨rfl, stage, done, metrics⟩ := same
  have history : History sample [("report", 0)] s := History.initial.follow followed
  obtain ⟨balanced, -, ended⟩ := runs_are_accounted_for history
  exact ⟨s, history, stage, done, metrics, balanced, (ended stage done).1⟩

end Scheduler

end FlagAlerts
