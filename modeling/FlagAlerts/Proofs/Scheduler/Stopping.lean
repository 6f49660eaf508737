import FlagAlerts.Numbers
import FlagAlerts.Proofs.Scheduler.Accounting

/-!
# Stopping the scheduler

A loop that notices a stop gives its runs the time of grace and then aborts those that are left, so
that a stop should be done when the time of grace is over. It is, unless a loop has run out of times:
such a loop waits for its last runs and does not notice the stop.

The loops are prompt here: time goes by only while none of them has anything to do. Nothing is said
of the runs, which begin and end when they like, or never.
-/

namespace FlagAlerts

open FlagAlerts.Calendar

/-- How far a loop in a phase is from its end, once the scheduler is stopped. -/
def LoopPhase.rank : LoopPhase → Nat
  | .planning => 3
  | .sleeping .. => 2
  | .exhausted | .draining _ => 1
  | .finished => 0

/-- How much a run can still do, which is to begin and to end. -/
def JobRun.rank (run : JobRun) : Nat := if run.hasBegun then 1 else 2

namespace JobLoop

/-- How much a loop and its runs can still do, once the scheduler is stopped. -/
def rank (l : JobLoop) : Nat := l.phase.rank + total (l.runs.map JobRun.rank)

/-- What a loop does by itself, which its runs have no part in. -/
def ownActions : List LoopAction := [.plan, .fire, .notice, .close]

/-- Whether a loop waits: there is nothing that it would do by itself now. -/
def isWaiting (z : Zone) (grace : Nat) (isStopped : Bool) (c : Clock) (l : JobLoop) : Bool :=
  ownActions.all fun a => (l.step? z grace isStopped c a).isNone

/-- A loop has run out of times, or is about to find no further one. -/
def HasRunOut (z : Zone) (c : Clock) (l : JobLoop) : Prop :=
  l.phase = .exhausted ∨
    l.phase = .planning ∧ l.schedule.next? z (max l.lastTime (c.wall / 1000)) = none

/-- The run that ends by itself in an action, with the way in which it does. -/
def endings : LoopAction → List (Nat × RunEnd)
  | .endRun number how => [(number, how)]
  | _ => []

section Steps

variable {l k m : JobLoop} {z : Zone} {grace ms wall : Nat} {isStopped : Bool} {c c₀ : Clock}
  {a : LoopAction} {own : List (Nat × RunEnd)}

theorem endings_of_own (itself : a ∈ ownActions) : endings a = [] := by
  simp only [ownActions, List.mem_cons, List.not_mem_nil, or_false] at itself
  rcases itself with rfl | rfl | rfl | rfl <;> rfl

/-- After a stop a loop waits only if it has finished, or has runs left and either has run out of
times or has not come to the end of the time of grace. -/
theorem phase_of_isWaiting (waiting : l.isWaiting z grace true c = true) :
    l.phase = .finished ∨ l.runs ≠ [] ∧
      (l.phase = .exhausted ∨ ∃ deadline, l.phase = .draining deadline ∧ c.timer < deadline) := by
  simp only [isWaiting, ownActions, List.all_cons, List.all_nil, Bool.and_true, Bool.and_eq_true,
    Option.isNone_iff_eq_none] at waiting
  obtain ⟨plan, -, notice, close⟩ := waiting
  cases phase : l.phase with
  | planning => simp [step?, phase] at plan
  | sleeping time wake => simp [step?, phase] at notice
  | exhausted => exact .inr ⟨by simpa [step?, phase] using close, .inl rfl⟩
  | draining deadline =>
    have busy : l.runs ≠ [] := by
      intro idle
      simp [step?, phase, idle] at close
    have early : c.timer < deadline := by
      by_contra due
      simp [step?, phase, busy, Nat.not_lt.1 due] at close
    exact .inr ⟨busy, .inr ⟨deadline, rfl, early⟩⟩
  | finished => exact .inl rfl

/-- A loop drains only after a stop. -/
theorem Advance.draining (h : Advance z grace false c l a k) {deadline : Nat}
    (drains : k.phase = .draining deadline) : l.phase = .draining deadline := by
  cases h with
  | plans | runsOut | fires | finishes | aborts => cases drains
  | drains _ stops => cases stops
  | begins | ends => exact drains

/-- After a stop every step of a loop or of one of its runs leaves less to do. -/
theorem Advance.rank_lt (h : Advance z grace true c l a k) (accounted : Accounted l) :
    k.rank < l.rank := by
  cases h with
  | plans planning =>
    simp only [rank, planning, LoopPhase.rank]
    omega
  | runsOut planning =>
    simp only [rank, planning, LoopPhase.rank]
    omega
  | fires _ goesOn => cases goesOn
  | drains sleeps =>
    simp only [rank, sleeps, LoopPhase.rank]
    omega
  | finishes _ lasts =>
    have ahead : 0 < l.phase.rank := by
      cases phase : l.phase with
      | finished => exact absurd phase lasts
      | planning | sleeping | exhausted | draining => simp [LoopPhase.rank]
    show 0 + total (l.runs.map JobRun.rank) < l.phase.rank + total (l.runs.map JobRun.rank)
    omega
  | aborts drains =>
    have none : l.abortAll.runs = [] := (accounted.abort l.runs rfl).2.1
    simp only [rank, drains, none, LoopPhase.rank, List.map_nil, total]
    omega
  | begins member waits =>
    obtain ⟨before, after, runs, others⟩ := split_at_run accounted.distinct member
    have begun := begin_run others
    rw [← runs] at begun
    refine Nat.add_lt_add_left ?_ l.phase.rank
    rw [begun, runs]
    simp [total_append, total, JobRun.rank, waits]
  | ends member goes =>
    obtain ⟨before, after, runs, -, rest, -⟩ := accounted.without_run member
    refine Nat.add_lt_add_left ?_ l.phase.rank
    rw [endRun, rest, runs]
    simp [total_append, total, JobRun.rank, goes]

/-- Aborting ends the runs that have begun. -/
theorem ended_foldl_abortRun (runs : List JobRun) (l : JobLoop) :
    (runs.foldl abortRun l).ended =
      l.ended ++ ((runs.filter (·.hasBegun)).map (·.number)).map (·, .aborted) := by
  induction runs generalizing l with
  | nil => simp
  | cons run rest ih =>
    rw [List.foldl_cons, ih]
    cases begun : run.hasBegun with
    | true => simp [abortRun, endRun, begun]
    | false => simp [abortRun, begun]

/-- What has come of a loop `l` since a stop, at which the clock showed `c₀`: it is `k` at `c`, and
the runs that ended by themselves in between are `own`. If the loop waits for its last runs it did so
at the stop, and it goes on to while none of them ends. Otherwise it notices the stop at once and
drains up to the end of the time of grace, when the runs that are `cut` are aborted. -/
structure WindsDown (z : Zone) (grace : Nat) (c₀ : Clock) (l : JobLoop) (own : List (Nat × RunEnd))
    (c : Clock) (k : JobLoop) : Prop where
  job : k.job = l.job
  runOut : k.HasRunOut z c → l.HasRunOut z c₀
  held : l.HasRunOut z c₀ → l.runs ≠ [] → own = [] → k.HasRunOut z c ∧ k.runs ≠ []
  idle : l.runs = [] → k.runs = []
  prompt : 1 < k.phase.rank → c.timer = c₀.timer
  graceful : ∀ deadline, k.phase = .draining deadline →
    deadline = c₀.timer + grace ∧ c.timer ≤ deadline
  recorded : ∃ cut : List Nat, k.ended = l.ended ++ own ++ cut.map (·, .aborted) ∧
    (cut ≠ [] → k.phase = .finished ∧ c₀.timer + grace ≤ c.timer)
  kept : ∀ run ∈ l.runs, run.hasBegun = true → run ∈ k.runs ∨ run.number ∈ k.ended.map (·.1)

/-- While a loop has not finished no run of it has been aborted. -/
theorem WindsDown.ended_of_lasts (h : WindsDown z grace c₀ l own c k) (lasts : k.phase ≠ .finished) :
    k.ended = l.ended ++ own := by
  obtain ⟨cut, ended, late⟩ := h.recorded
  obtain rfl : cut = [] := by
    by_contra aborted
    exact lasts (late aborted).1
  simpa using ended

/-- A step that changes the phase of a loop and nothing else. -/
theorem WindsDown.enter (h : WindsDown z grace c₀ l own c k) (lasts : k.phase ≠ .finished)
    (phase : LoopPhase) (runOut : phase = .exhausted → k.HasRunOut z c)
    (held : k.HasRunOut z c → k.runs ≠ [] → phase = .exhausted)
    (plans : phase ≠ .planning) (prompt : 1 < phase.rank → 1 < k.phase.rank)
    (graceful : ∀ deadline, phase = .draining deadline →
      deadline = c₀.timer + grace ∧ c.timer ≤ deadline) :
    WindsDown z grace c₀ l own c { k with phase := phase } where
  job := h.job
  runOut := by
    rintro (exhausted | ⟨planning, -⟩)
    · exact h.runOut (runOut exhausted)
    · exact absurd planning plans
  held := by
    intro out busy silent
    obtain ⟨stays, left⟩ := h.held out busy silent
    exact ⟨.inl (held stays left), left⟩
  idle := h.idle
  prompt := fun busy => h.prompt (prompt busy)
  graceful := graceful
  recorded := ⟨[], by simpa using h.ended_of_lasts lasts, fun aborted => absurd rfl aborted⟩
  kept := h.kept

theorem WindsDown.abort (h : WindsDown z grace c₀ l own c k) {deadline : Nat}
    (drains : k.phase = .draining deadline) (due : deadline ≤ c.timer) (accounted : Accounted k) :
    WindsDown z grace c₀ l own c { k.abortAll with phase := .finished } := by
  obtain ⟨-, none, -, job, -⟩ := accounted.abort k.runs rfl
  have ended := ended_foldl_abortRun k.runs k
  have before := h.ended_of_lasts (by simp [drains])
  obtain ⟨rfl, -⟩ := h.graceful deadline drains
  exact {
    job := job.trans h.job
    runOut := by rintro (exhausted | ⟨planning, -⟩) <;> contradiction
    held := by
      intro out busy silent
      have stays := (h.held out busy silent).1
      simp [HasRunOut, drains] at stays
    idle := fun _ => none
    prompt := fun busy => absurd busy (by simp [LoopPhase.rank])
    graceful := by simp
    recorded := ⟨(k.runs.filter (·.hasBegun)).map (·.number), by rw [← before]; exact ended,
      fun _ => ⟨rfl, due⟩⟩
    kept := by
      intro run hrun goes
      right
      show run.number ∈ (k.runs.foldl abortRun k).ended.map (·.1)
      rw [ended, List.map_append, List.mem_append]
      rcases h.kept run hrun goes with left | gone
      · right
        have cut : run.number ∈ (k.runs.filter (·.hasBegun)).map (·.number) :=
          List.mem_map_of_mem (List.mem_filter.2 ⟨left, goes⟩)
        simpa using cut
      · exact .inl gone }

theorem WindsDown.begins (h : WindsDown z grace c₀ l own c k) (run : JobRun) :
    WindsDown z grace c₀ l own c { k with
      runs := k.runs.map fun r => if r.number == run.number then { r with hasBegun := true } else r
      metrics := k.metrics ++ [.jobStarted k.job] } := by
  refine { h with held := ?_, idle := ?_, kept := ?_ }
  · intro out busy silent
    obtain ⟨stays, left⟩ := h.held out busy silent
    exact ⟨stays, by simpa using left⟩
  · intro idle
    simp [h.idle idle]
  · intro other hother goes
    refine (h.kept other hother goes).imp_left fun left => List.mem_map.2 ⟨other, left, ?_⟩
    -- A run that has begun is the same once it has begun.
    split
    · cases other
      cases goes
      rfl
    · rfl

theorem WindsDown.ends (h : WindsDown z grace c₀ l own c k) (accounted : Accounted k) {run : JobRun}
    (member : run ∈ k.runs) (how : RunEnd) :
    WindsDown z grace c₀ l (own ++ [(run.number, how)]) c (k.endRun run.number how) := by
  have lasts : k.phase ≠ .finished := by
    intro finished
    rw [accounted.idle finished] at member
    cases member
  refine { h with held := ?_, idle := ?_, recorded := ?_, kept := ?_ }
  · simp
  · intro idle
    simp [endRun, h.idle idle]
  · exact ⟨[], by simp [endRun, h.ended_of_lasts lasts], fun aborted => absurd rfl aborted⟩
  · intro other hother begun
    by_cases same : other.number = run.number
    · exact .inr (by simp [endRun, same])
    · rcases h.kept other hother begun with left | gone
      · exact .inl (List.mem_filter.2 ⟨left, by simpa using same⟩)
      · right
        rw [endRun, List.map_append]
        exact List.mem_append_left _ gone

theorem WindsDown.silently (h : WindsDown z grace c₀ l own c k) (silent : endings a = []) :
    WindsDown z grace c₀ l (own ++ endings a) c k := by
  rw [silent, List.append_nil]
  exact h

/-- Every step of a loop or of one of its runs after a stop is one of winding down. -/
theorem WindsDown.step (h : WindsDown z grace c₀ l own c k) (accounted : Accounted k)
    (next : Advance z grace true c k a m) :
    WindsDown z grace c₀ l (own ++ endings a) c m := by
  cases next with
  | plans planning found =>
    have lasts : k.phase ≠ .finished := by simp [planning]
    refine (h.enter lasts _ ?_ ?_ ?_ ?_ ?_).silently rfl
    · simp
    · simp [HasRunOut, planning, found]
    · simp
    · simp [planning, LoopPhase.rank]
    · simp
  | runsOut planning found =>
    have lasts : k.phase ≠ .finished := by simp [planning]
    refine (h.enter lasts _ ?_ ?_ ?_ ?_ ?_).silently rfl
    · exact fun _ => .inr ⟨planning, found⟩
    · simp
    · simp
    · simp [LoopPhase.rank]
    · simp
  | fires _ goesOn => cases goesOn
  | drains sleeps =>
    have lasts : k.phase ≠ .finished := by simp [sleeps]
    have instant := h.prompt (by simp [sleeps, LoopPhase.rank])
    refine (h.enter lasts _ ?_ ?_ ?_ ?_ ?_).silently rfl
    · simp
    · simp [HasRunOut, sleeps]
    · simp
    · simp [LoopPhase.rank]
    · intro deadline same
      cases same
      omega
  | finishes itself lasts idle =>
    refine (h.enter lasts _ ?_ ?_ ?_ ?_ ?_).silently (by rcases itself with rfl | rfl <;> rfl)
    · simp
    · exact fun _ busy => absurd idle busy
    · simp
    · simp [LoopPhase.rank]
    · simp
  | aborts drains due => exact (h.abort drains due accounted).silently rfl
  | begins => exact (h.begins _).silently rfl
  | ends member => exact h.ends accounted member _

/-- Time goes by only while a loop waits, and not beyond the time of grace that it gives. -/
theorem WindsDown.pass (h : WindsDown z grace c₀ l own c k)
    (waiting : k.isWaiting z grace true c = true)
    (room : ∀ wake, k.wakeTime? = some wake → c.timer + ms ≤ wake) :
    WindsDown z grace c₀ l own ⟨c.timer + ms, c.wall + wall⟩ k := by
  have phase := phase_of_isWaiting waiting
  exact {
    job := h.job
    runOut := by
      rintro (exhausted | ⟨planning, -⟩)
      · exact h.runOut (.inl exhausted)
      · simp [planning] at phase
    held := by
      intro out busy silent
      obtain ⟨exhausted | ⟨planning, -⟩, left⟩ := h.held out busy silent
      · exact ⟨.inl exhausted, left⟩
      · simp [planning] at phase
    idle := h.idle
    prompt := by
      intro busy
      rcases phase with finished | ⟨-, exhausted | ⟨deadline, drains, -⟩⟩
      · simp [finished, LoopPhase.rank] at busy
      · simp [exhausted, LoopPhase.rank] at busy
      · simp [drains, LoopPhase.rank] at busy
    graceful := by
      intro deadline drains
      exact ⟨(h.graceful deadline drains).1, room deadline (by simp [wakeTime?, drains])⟩
    recorded := by
      obtain ⟨cut, ended, late⟩ := h.recorded
      refine ⟨cut, ended, fun aborted => ?_⟩
      obtain ⟨finished, past⟩ := late aborted
      exact ⟨finished, Nat.le_add_right_of_le past⟩
    kept := h.kept }

end Steps

end JobLoop

namespace Scheduler

/-- How much all loops and their runs can still do, once the scheduler is stopped. -/
def rank (s : Scheduler) : Nat := total (s.loops.map JobLoop.rank)

/-- Whether all loops wait. -/
def isQuiet (s : Scheduler) : Bool :=
  s.loops.all (JobLoop.isWaiting s.zone s.grace (s.stage == .stopped) s.clock)

/-- Whether time goes by in an action. -/
def Action.takesTime : Action → Bool
  | .pass .. => true
  | _ => false

/-- The run that ends by itself in an action, with the place of its loop. -/
def endings : Action → List (Nat × Nat × RunEnd)
  | .loop i a => (JobLoop.endings a).map (i, ·)
  | _ => []

/-- Of runs that ended, those of the loop at a place. -/
def endsAt (i : Nat) (log : List (Nat × Nat × RunEnd)) : List (Nat × RunEnd) :=
  (log.filter (·.1 == i)).map (·.2)

/-- The states that a scheduler gets into if its loops are prompt, each with the runs that ended by
themselves up to then. -/
inductive Prompt (start : Scheduler) : List (Nat × Nat × RunEnd) → Scheduler → Prop where
  | initial : Prompt start [] start
  | step {log : List (Nat × Nat × RunEnd)} {s t : Scheduler} (a : Action)
    (before : Prompt start log s) (quiet : a.takesTime = true → s.isQuiet = true)
    (next : s.step? a = some t) : Prompt start (log ++ endings a) t

/-- The log and the scheduler after actions, one after another; none if one is refused or not
possible, or takes time while a loop has something to do. -/
def followPromptly? (log : List (Nat × Nat × RunEnd)) (s : Scheduler) :
    List Action → Option (List (Nat × Nat × RunEnd) × Scheduler)
  | [] => some (log, s)
  | a :: rest =>
    if a.takesTime && !s.isQuiet then none
    else (s.step? a).bind fun t => followPromptly? (log ++ endings a) t rest

variable {s t u start : Scheduler} {log log' : List (Nat × Nat × RunEnd)} {a : Action}
  {l k : JobLoop} {i : Nat}

theorem Prompt.follow {actions : List Action} (course : Prompt start log s)
    (h : followPromptly? log s actions = some (log', t)) : Prompt start log' t := by
  induction actions generalizing log s with
  | nil =>
    cases h
    exact course
  | cons a rest ih =>
    unfold followPromptly? at h
    split at h
    · cases h
    next free =>
      obtain ⟨next, stepped, h⟩ := Option.bind_eq_some_iff.1 h
      refine ih (course.step a (fun takes => ?_) stepped) h
      simpa [takes] using free

theorem Prompt.trans (first : Prompt start log s) (second : Prompt s log' t) :
    Prompt start (log ++ log') t := by
  induction second with
  | initial =>
    rw [List.append_nil]
    exact first
  | step a _ quiet next ih =>
    rw [← List.append_assoc]
    exact ih.step a quiet next

theorem Prompt.reachable (course : Prompt start log s) : Reachable start s := by
  induction course with
  | initial => exact .initial
  | step a _ _ next ih => exact ih.step a next

/-! ## What comes of a stop -/

/-- `t` is what has come of a scheduler that was stopped in the state `s`. -/
structure IsStopping (s : Scheduler) (log : List (Nat × Nat × RunEnd)) (t : Scheduler) : Prop where
  stage : t.stage = .stopped
  zone : t.zone = s.zone
  grace : t.grace = s.grace
  accounted : ∃ returned, Accounted returned t
  size : t.loops.length = s.loops.length
  each : ∀ i l k, s.loops[i]? = some l → t.loops[i]? = some k →
    JobLoop.WindsDown s.zone s.grace s.clock l (endsAt i log) t.clock k

theorem endsAt_append_endings (i j : Nat) (log : List (Nat × Nat × RunEnd)) (a : LoopAction) :
    endsAt i (log ++ endings (.loop j a)) =
      endsAt i log ++ if i = j then JobLoop.endings a else [] := by
  rw [endsAt, List.filter_append, List.map_append]
  by_cases same : i = j
  · subst same
    simp [endings, endsAt, List.filter_map, Function.comp_def]
  · simp [endings, endsAt, List.filter_map, Function.comp_def, same, Ne.symm same]

/-- Before a stop no loop drains. -/
theorem Reachable.phase_ne_draining (reach : Reachable start s) (idle : start.loops = [])
    (goesOn : s.stage ≠ .stopped) : ∀ l ∈ s.loops, ∀ deadline, l.phase ≠ .draining deadline := by
  induction reach with
  | initial => simp [idle]
  | @step s t a _ next ih =>
    cases a with
    | add job expression =>
      obtain ⟨schedule, -, rfl⟩ := add_eq_some next
      exact ih goesOn
    | start =>
      obtain ⟨-, rfl⟩ := start_eq_some next
      intro l hl
      obtain ⟨_, -, rfl⟩ := List.mem_map.1 hl
      simp
    | stop =>
      cases next
      unfold stop at goesOn
      split at goesOn
      next stopped => exact absurd stopped goesOn
      next => exact absurd rfl goesOn
    | loop i a =>
      obtain ⟨l, k, found, step, rfl⟩ := stepLoop?_eq_some next
      have running : (s.stage == .stopped) = false := by simpa using goesOn
      rw [running] at step
      intro x hx deadline drains
      rcases List.mem_or_eq_of_mem_set hx with old | rfl
      · exact ih goesOn x old deadline drains
      · have before := (JobLoop.step_advance step).draining drains
        exact ih goesOn l (List.mem_of_getElem? found) deadline before
    | pass ms wall =>
      simp only [step?] at next
      split at next <;> cases next
      exact ih goesOn

/-- Nothing has come of a stop yet. -/
theorem IsStopping.initial {returned : List (String × Nat)} (accounted : Accounted returned s)
    (goesOn : s.stage ≠ .stopped)
    (steady : ∀ l ∈ s.loops, ∀ deadline, l.phase ≠ .draining deadline) :
    IsStopping s [] s.stop := by
  have stopped : s.stop = { s with
      stage := .stopped, health := { s.health with status := .unhealthy } } := if_neg goesOn
  refine {
    stage := by rw [stopped]
    zone := by rw [stopped]
    grace := by rw [stopped]
    accounted := ⟨_, accounted.step (a := .stop) rfl⟩
    size := by rw [stopped]
    each := ?_ }
  intro i l k hl hk
  rw [stopped] at hk ⊢
  obtain rfl : l = k := Option.some.inj (hl.symm.trans hk)
  exact {
    job := rfl
    runOut := id
    held := fun out busy _ => ⟨out, busy⟩
    idle := id
    prompt := fun _ => rfl
    graceful := fun deadline drains =>
      absurd drains (steady l (List.mem_of_getElem? hl) deadline)
    recorded := ⟨[], by simp [endsAt], fun aborted => absurd rfl aborted⟩
    kept := fun _ hrun _ => .inl hrun }

theorem IsStopping.isWaiting (h : IsStopping s log t) (quiet : t.isQuiet = true)
    (member : k ∈ t.loops) : k.isWaiting s.zone s.grace true t.clock = true := by
  have waits := List.all_eq_true.1 quiet k member
  rwa [h.stage, h.zone, h.grace] at waits

/-- Every step after a stop takes it further. -/
theorem IsStopping.step (h : IsStopping s log t) (quiet : a.takesTime = true → t.isQuiet = true)
    (next : t.step? a = some u) : IsStopping s (log ++ endings a) u := by
  obtain ⟨returned, accounted⟩ := h.accounted
  have after : ∃ returned, Accounted returned u := ⟨_, accounted.step next⟩
  cases a with
  | add job expression =>
    obtain ⟨schedule, -, rfl⟩ := add_eq_some next
    show IsStopping s (log ++ []) _
    rw [List.append_nil]
    exact { h with accounted := after }
  | start =>
    obtain ⟨idle, -⟩ := start_eq_some next
    rw [h.stage] at idle
    cases idle
  | stop =>
    cases next
    show IsStopping s (log ++ []) t.stop
    rw [List.append_nil, stop, if_pos h.stage]
    exact h
  | loop j a =>
    obtain ⟨l, k, found, step, rfl⟩ := stepLoop?_eq_some next
    have stopped : (t.stage == .stopped) = true := by simp [h.stage]
    rw [stopped, h.zone, h.grace] at step
    refine { h with
      accounted := after
      size := List.length_set.trans h.size
      each := ?_ }
    intro i first m hfirst hm
    rw [endsAt_append_endings]
    by_cases same : i = j
    · subst same
      obtain ⟨bound, -⟩ := List.getElem?_eq_some_iff.1 found
      obtain rfl : k = m := by
        rw [List.getElem?_set_self bound] at hm
        exact Option.some.inj hm
      rw [if_pos rfl]
      have books := accounted.loops l (List.mem_of_getElem? found)
      exact (h.each i first l hfirst found).step books (JobLoop.step_advance step)
    · rw [if_neg same, List.append_nil]
      rw [List.getElem?_set_ne (Ne.symm same)] at hm
      exact h.each i first m hfirst hm
  | pass ms wall =>
    simp only [step?] at next
    split at next
    next room =>
      cases next
      show IsStopping s (log ++ []) _
      rw [List.append_nil]
      refine { h with accounted := after, each := ?_ }
      intro i l k hl hk
      have member := List.mem_of_getElem? hk
      refine (h.each i l k hl hk).pass (h.isWaiting (quiet rfl) member) fun wake hwake => ?_
      have early := List.all_eq_true.1 room wake (List.mem_filterMap.2 ⟨k, member, hwake⟩)
      simpa using early
    next => cases next

theorem IsStopping.run (h : IsStopping s log t) (course : Prompt t log' u) :
    IsStopping s (log ++ log') u := by
  induction course with
  | initial =>
    rw [List.append_nil]
    exact h
  | step a _ quiet next ih =>
    rw [← List.append_assoc]
    exact ih.step quiet next

/-- Every loop comes from one that was there at the stop. -/
theorem IsStopping.origin (h : IsStopping s log t) (hk : t.loops[i]? = some k) :
    ∃ l, s.loops[i]? = some l ∧
      JobLoop.WindsDown s.zone s.grace s.clock l (endsAt i log) t.clock k := by
  obtain ⟨bound, -⟩ := List.getElem?_eq_some_iff.1 hk
  rw [h.size] at bound
  have hl : s.loops[i]? = some s.loops[i] := List.getElem?_eq_getElem bound
  exact ⟨_, hl, h.each i _ k hl hk⟩

/-- Every loop that was there at the stop is still there. -/
theorem IsStopping.remains (h : IsStopping s log t) (hl : s.loops[i]? = some l) :
    ∃ k, t.loops[i]? = some k ∧
      JobLoop.WindsDown s.zone s.grace s.clock l (endsAt i log) t.clock k := by
  obtain ⟨bound, -⟩ := List.getElem?_eq_some_iff.1 hl
  rw [← h.size] at bound
  have hk : t.loops[i]? = some t.loops[i] := List.getElem?_eq_getElem bound
  exact ⟨_, hk, h.each i l _ hl hk⟩

/-! ## The time of grace -/

/-- After a stop there is less to do with every step of a loop or of a run. -/
theorem IsStopping.rank_lt (h : IsStopping s log t) {a : LoopAction}
    (next : t.step? (.loop i a) = some u) : u.rank < t.rank := by
  obtain ⟨returned, accounted⟩ := h.accounted
  obtain ⟨l, k, found, step, rfl⟩ := stepLoop?_eq_some next
  have stopped : (t.stage == .stopped) = true := by simp [h.stage]
  rw [stopped] at step
  have books := accounted.loops l (List.mem_of_getElem? found)
  have less := (JobLoop.step_advance step).rank_lt books
  obtain ⟨before, after, loops, updated, -⟩ := split_at_loop accounted.names found
  rw [rank, rank, updated, loops]
  simp only [List.map_append, List.map_cons, total_append, total]
  omega

/-- A loop that does not wait can take a step of its own. -/
theorem exists_step_of_not_isQuiet (busy : t.isQuiet = false) :
    ∃ i a u, a ∈ JobLoop.ownActions ∧ t.step? (.loop i a) = some u := by
  obtain ⟨l, member, busy⟩ := List.all_eq_false.1 busy
  obtain ⟨a, itself, possible⟩ := List.all_eq_false.1 (Bool.not_eq_true _ ▸ busy)
  have able : l.step? t.zone t.grace (t.stage == .stopped) t.clock a ≠ none := by
    simpa using possible
  obtain ⟨k, step⟩ := Option.ne_none_iff_exists'.1 able
  obtain ⟨i, found⟩ := List.getElem?_of_mem member
  refine ⟨i, a, { t with loops := t.loops.set i k }, itself, ?_⟩
  simp [step?, stepLoop?, found, step]

/-- After a stop all loops come to wait before time goes by, whether any run ends or not. -/
theorem IsStopping.settles (h : IsStopping s log t) :
    ∃ u, Prompt t [] u ∧ u.clock = t.clock ∧ u.isQuiet = true := by
  induction rank : t.rank using Nat.strongRecOn generalizing t log with
  | ind n ih =>
    cases quiet : t.isQuiet with
    | true => exact ⟨t, .initial, rfl, quiet⟩
    | false =>
      obtain ⟨i, a, u, itself, next⟩ := exists_step_of_not_isQuiet quiet
      have silent : endings (.loop i a) = [] := by
        rw [endings, JobLoop.endings_of_own itself, List.map_nil]
      have timeless : (Action.loop i a).takesTime = true → t.isQuiet = true := by
        simp [Action.takesTime]
      have first := Prompt.initial.step _ timeless next
      have same : u.clock = t.clock := by
        obtain ⟨l, k, -, -, rfl⟩ := stepLoop?_eq_some next
        rfl
      have less := h.rank_lt next
      obtain ⟨w, course, clock, quiet⟩ := ih u.rank (rank ▸ less) (h.step timeless next) rfl
      rw [silent] at first
      exact ⟨w, first.trans course, clock.trans same, quiet⟩

/-- While all loops wait time can go by up to the end of the time of grace. -/
theorem IsStopping.pass_eq_some (h : IsStopping s log t) (quiet : t.isQuiet = true) (ms wall : Nat)
    (room : t.clock.timer + ms ≤ s.clock.timer + s.grace) :
    t.step? (.pass ms wall) =
      some { t with clock := ⟨t.clock.timer + ms, t.clock.wall + wall⟩ } := by
  refine if_pos (List.all_eq_true.2 fun wake hwake => ?_)
  obtain ⟨k, member, wakes⟩ := List.mem_filterMap.1 hwake
  obtain ⟨i, hk⟩ := List.getElem?_of_mem member
  obtain ⟨l, -, winds⟩ := h.origin hk
  have phase := JobLoop.phase_of_isWaiting (h.isWaiting quiet member)
  rcases phase with finished | ⟨-, exhausted | ⟨deadline, drains, -⟩⟩
  · simp [JobLoop.wakeTime?, finished] at wakes
  · simp [JobLoop.wakeTime?, exhausted] at wakes
  · obtain rfl : deadline = wake := by simpa [JobLoop.wakeTime?, drains] using wakes
    obtain ⟨rfl, -⟩ := winds.graceful deadline drains
    simpa using room

/-- What a stop comes to: `s` is the scheduler when it is stopped and `t` what has come of it, with
the runs that ended by themselves in between. -/
structure StopCourse (s : Scheduler) (log : List (Nat × Nat × RunEnd)) (t : Scheduler) : Prop where
  /-- The loops and their runs cannot go on for ever before time goes by. -/
  rank_lt : ∀ i a u, t.step? (.loop i a) = some u → u.rank < t.rank
  /-- The time of grace comes to its end, even if no run ends by itself. -/
  reaches : t.clock.timer ≤ s.clock.timer + s.grace → ∃ u, Prompt t [] u ∧
    u.clock.timer = s.clock.timer + s.grace ∧ u.isQuiet = true
  /-- Then the stop is done, exactly if those loops have no runs left that had run out of times. -/
  isStopDone_iff : t.isQuiet = true → s.clock.timer + s.grace ≤ t.clock.timer →
    (t.isStopDone = true ↔ ∀ (i : Nat) (l k : JobLoop), s.loops[i]? = some l → t.loops[i]? = some k →
      l.HasRunOut s.zone s.clock → k.runs = [])
  /-- No run that had begun is lost: it is still there, or it has ended. The runs that ended by
  themselves are recorded as they did, and none is aborted before the end of the time of grace. -/
  recorded : ∀ i l, s.loops[i]? = some l → ∃ k cut, t.loops[i]? = some k ∧ k.job = l.job ∧
    (∀ run ∈ l.runs, run.hasBegun = true → run ∈ k.runs ∨ run.number ∈ k.ended.map (·.1)) ∧
    k.ended = l.ended ++ endsAt i log ++ cut.map (·, .aborted) ∧
    (cut ≠ [] → k.runs = [] ∧ s.clock.timer + s.grace ≤ t.clock.timer)
  /-- The runs that were counted as started have ended or are going on, and every end is counted and
  timed under its outcome. -/
  counted : ∀ k ∈ t.loops, ∀ outcome,
    t.metrics.count (.jobStarted k.job) = k.ended.length + k.runs.countP (·.hasBegun) ∧
      t.metrics.count (.jobFinished k.job outcome) = k.ended.countP (·.2.outcome = outcome) ∧
      t.metrics.count (.jobDuration k.job outcome) = k.ended.countP (·.2.outcome = outcome)

theorem IsStopping.reaches (h : IsStopping s log t)
    (early : t.clock.timer ≤ s.clock.timer + s.grace) :
    ∃ u, Prompt t [] u ∧ u.clock.timer = s.clock.timer + s.grace ∧ u.isQuiet = true := by
  obtain ⟨v, first, before, quiet⟩ := h.settles
  rw [← before] at early
  have calm := h.run first
  have passed := calm.pass_eq_some quiet (s.clock.timer + s.grace - v.clock.timer) 0 (by omega)
  have second := Prompt.initial.step _ (fun _ => quiet) passed
  obtain ⟨u, last, after, still⟩ := (calm.step (fun _ => quiet) passed).settles
  refine ⟨u, (first.trans second).trans last, ?_, still⟩
  rw [after]
  show v.clock.timer + (s.clock.timer + s.grace - v.clock.timer) = s.clock.timer + s.grace
  omega

theorem IsStopping.isStopDone_iff (h : IsStopping s log t) (quiet : t.isQuiet = true)
    (past : s.clock.timer + s.grace ≤ t.clock.timer) :
    t.isStopDone = true ↔ ∀ (i : Nat) (l k : JobLoop), s.loops[i]? = some l →
      t.loops[i]? = some k → l.HasRunOut s.zone s.clock → k.runs = [] := by
  obtain ⟨returned, accounted⟩ := h.accounted
  constructor
  · intro done i l k _ hk _
    exact accounted.runs_of_isStopDone done k (List.mem_of_getElem? hk)
  · intro left
    refine List.all_eq_true.2 fun k member => ?_
    obtain ⟨i, hk⟩ := List.getElem?_of_mem member
    obtain ⟨l, hl, winds⟩ := h.origin hk
    have phase := JobLoop.phase_of_isWaiting (h.isWaiting quiet member)
    rcases phase with finished | ⟨busy, exhausted | ⟨deadline, drains, early⟩⟩
    · simpa using finished
    · exact absurd (left i l k hl hk (winds.runOut (.inl exhausted))) busy
    · obtain ⟨rfl, -⟩ := winds.graceful deadline drains
      omega

theorem IsStopping.stopCourse (h : IsStopping s log t) : StopCourse s log t := by
  obtain ⟨returned, accounted⟩ := h.accounted
  exact {
    rank_lt := fun i a u next => h.rank_lt next
    reaches := h.reaches
    isStopDone_iff := h.isStopDone_iff
    recorded := by
      intro i l hl
      obtain ⟨k, hk, winds⟩ := h.remains hl
      obtain ⟨cut, ended, late⟩ := winds.recorded
      refine ⟨k, cut, hk, winds.job, winds.kept, ended, fun aborted => ?_⟩
      obtain ⟨finished, past⟩ := late aborted
      exact ⟨(accounted.loops k (List.mem_of_getElem? hk)).idle finished, past⟩
    counted := by
      intro k member outcome
      have books := accounted.loops k member
      obtain ⟨started, finished, timed, -⟩ := accounted.count_of_mem member outcome
      rw [started, finished, timed, books.timed, books.started, books.finished]
      exact ⟨rfl, rfl, rfl⟩ }

/-- If no run ends by itself, a loop that had run out of times still has those that it had. -/
theorem IsStopping.stays (h : IsStopping s [] t) (member : l ∈ s.loops)
    (out : l.HasRunOut s.zone s.clock) (busy : l.runs ≠ []) : t.isStopDone = false := by
  obtain ⟨i, hl⟩ := List.getElem?_of_mem member
  obtain ⟨k, hk, winds⟩ := h.remains hl
  obtain ⟨stays, -⟩ := winds.held out busy rfl
  refine List.all_eq_false.2 ⟨k, List.mem_of_getElem? hk, ?_⟩
  rcases stays with exhausted | ⟨planning, -⟩
  · simp [exhausted]
  · simp [planning]

/-- Every course of a stop records its runs as they end and aborts what is left when the time of
grace is over. The stop is done by then, however the runs behave, exactly if no loop that had run out
of times had a run left. -/
theorem stop_is_done_in_time_iff {zone : Zone} {grace : Nat} {wall : Int}
    (reach : Reachable (.new zone grace wall) s) (goesOn : s.stage ≠ .stopped) :
    (∀ log t, Prompt s.stop log t → StopCourse s log t) ∧
      ((∀ log t, Prompt s.stop log t → t.isQuiet = true →
          s.clock.timer + s.grace ≤ t.clock.timer → t.isStopDone = true) ↔
        ∀ l ∈ s.loops, l.HasRunOut s.zone s.clock → l.runs = []) := by
  obtain ⟨returned, history⟩ := reach.history
  have steady := reach.phase_ne_draining rfl goesOn
  have stopping := IsStopping.initial history.accounted goesOn steady
  have every {log t} (course : Prompt s.stop log t) : IsStopping s log t := stopping.run course
  refine ⟨fun log t course => (every course).stopCourse, ?_, ?_⟩
  · intro inTime l member out
    by_contra busy
    have early : s.stop.clock.timer ≤ s.clock.timer + s.grace := by
      rw [stop, if_neg goesOn]
      exact Nat.le_add_right ..
    obtain ⟨t, course, past, quiet⟩ := stopping.reaches early
    have done := inTime [] t course quiet (Nat.le_of_eq past.symm)
    rw [(every course).stays member out busy] at done
    cases done
  · intro empty log t course quiet past
    refine ((every course).isStopDone_iff quiet past).2 fun i l k hl hk out => ?_
    have idle := empty l (List.mem_of_getElem? hl) out
    exact ((every course).each i l k hl hk).idle idle

/-- The sample after actions, and what comes of it by others that follow a stop. -/
def stopped? (before after : List Action) :
    Option (Scheduler × List (Nat × Nat × RunEnd) × Scheduler) := do
  let (_, s) ← followPromptly? [] sample before
  let (log, t) ← followPromptly? [] s.stop after
  return (s, log, t)

theorem stopped?_eq_some {before after : List Action} (h : stopped? before after = some (s, log, t)) :
    Reachable sample s ∧ Prompt s.stop log t := by
  simp only [stopped?, Option.bind_eq_bind, Option.bind_eq_some_iff, Option.pure_def,
    Option.some.injEq] at h
  obtain ⟨⟨_, _⟩, before, ⟨_, _⟩, after, same⟩ := h
  cases same
  exact ⟨(Prompt.initial.follow before).reachable, Prompt.initial.follow after⟩

/-- A job for every second has a run that has begun. -/
def busyActions : List Action :=
  [.add "report" "* * * * * *", .start, .loop 0 .plan, .pass 1000 1000, .loop 0 .fire,
    .loop 0 (.beginRun 0), .loop 0 .plan]

/-- A run that does not end is aborted when the time of grace is over, and the stop is done. -/
theorem endless_run_is_aborted_in_time :
    ∃ s t, Reachable sample s ∧ s.stage ≠ .stopped ∧ Prompt s.stop [] t ∧ StopCourse s [] t ∧
      t.clock.timer = s.clock.timer + s.grace ∧ t.isStopDone = true ∧
      t.metrics = [.jobStarted "report", .jobFinished "report" .fail,
        .jobDuration "report" .fail] := by
  have outcome : (stopped? busyActions [.loop 0 .notice, .pass 1000 1000, .loop 0 .close]).any
      (fun (s, log, t) => s.stage == .running && s.loops.map (·.phase) == [.sleeping 2 2000] &&
        log == [] && t.isQuiet && t.clock.timer == s.clock.timer + s.grace &&
        t.metrics == [.jobStarted "report", .jobFinished "report" .fail,
          .jobDuration "report" .fail]) = true := by decide +kernel
  obtain ⟨⟨s, log, t⟩, followed, same⟩ := (Option.any_eq_true _ _).1 outcome
  simp only [Bool.and_eq_true, beq_iff_eq] at same
  obtain ⟨⟨⟨⟨⟨stage, phases⟩, rfl⟩, quiet⟩, past⟩, metrics⟩ := same
  obtain ⟨reach, course⟩ := stopped?_eq_some followed
  have goesOn : s.stage ≠ .stopped := by simp [stage]
  obtain ⟨courses, inTime⟩ := stop_is_done_in_time_iff reach goesOn
  have timely : ∀ l ∈ s.loops, l.HasRunOut s.zone s.clock → l.runs = [] := by
    intro l member out
    have phase : l.phase = .sleeping 2 2000 := by
      have listed := List.mem_map_of_mem (f := (·.phase)) member
      rw [phases] at listed
      exact List.mem_singleton.1 listed
    simp [JobLoop.HasRunOut, phase] at out
  have done := inTime.2 timely [] t course quiet (Nat.le_of_eq past.symm)
  exact ⟨s, t, reach, goesOn, course, courses [] t course, past, done, metrics⟩

/-- A job with a single time has a run that has begun. -/
def lastRunActions : List Action :=
  [.add "report" "1 0 0 1 1 * 1970", .start, .loop 0 .plan, .pass 1000 1000, .loop 0 .fire,
    .loop 0 (.beginRun 0), .loop 0 .plan]

/-- A loop that waits for its last run does not notice a stop: an hour after it the run is still
going on, and the stop is not done. -/
theorem stop_waits_for_last_run :
    ∃ s t, Reachable sample s ∧ s.stage = .running ∧ Prompt s.stop [] t ∧ t.isQuiet = true ∧
      s.clock.timer + s.grace < t.clock.timer ∧ t.isStopDone = false ∧
      t.metrics = [.jobStarted "report"] := by
  have outcome : (stopped? lastRunActions [.pass 3600000 3600000]).any
      (fun (s, log, t) => s.stage == .running && log == [] && t.isQuiet &&
        decide (s.clock.timer + s.grace < t.clock.timer) && !t.isStopDone &&
        t.metrics == [.jobStarted "report"]) = true := by decide +kernel
  obtain ⟨⟨s, log, t⟩, followed, same⟩ := (Option.any_eq_true _ _).1 outcome
  simp only [Bool.and_eq_true, beq_iff_eq, decide_eq_true_eq, Bool.not_eq_true'] at same
  obtain ⟨⟨⟨⟨⟨stage, rfl⟩, quiet⟩, late⟩, waits⟩, metrics⟩ := same
  obtain ⟨reach, course⟩ := stopped?_eq_some followed
  exact ⟨s, t, reach, stage, course, quiet, late, waits, metrics⟩

end Scheduler

end FlagAlerts
