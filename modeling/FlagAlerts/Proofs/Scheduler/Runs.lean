import FlagAlerts.Scheduler.Loop
import Mathlib.Data.List.Nodup

/-!
# The runs of a job and what is counted of them

A run has a number of its own. It is with the loop from when it was started until it ends, and it
ends once: by itself after it has begun, or because it is aborted. What the loop has counted are the
runs that have begun, and with each that has ended the way in which it did.
-/

namespace FlagAlerts

open FlagAlerts.Calendar

namespace JobLoop

/-! ## What a step can do -/

/-- What a step of a loop can do, phase by phase, and what a step of its runs can. -/
inductive Advance (z : Zone) (grace : Nat) (isStopped : Bool) (c : Clock) (l : JobLoop) :
    LoopAction → JobLoop → Prop where
  | plans {time : Int} (planning : l.phase = .planning)
    (found : l.schedule.next? z (max l.lastTime (c.wall / 1000)) = some time) :
    Advance z grace isStopped c l .plan
      { l with phase := .sleeping time (c.timer + (time * 1000 - c.wall).toNat) }
  | runsOut (planning : l.phase = .planning)
    (found : l.schedule.next? z (max l.lastTime (c.wall / 1000)) = none) :
    Advance z grace isStopped c l .plan { l with phase := .exhausted }
  | fires {time : Int} {wake : Nat} (sleeps : l.phase = .sleeping time wake)
    (goesOn : isStopped = false) (due : wake ≤ c.timer) :
    Advance z grace isStopped c l .fire (l.fire time)
  | drains {time : Int} {wake : Nat} (sleeps : l.phase = .sleeping time wake)
    (stops : isStopped = true) :
    Advance z grace isStopped c l .notice { l with phase := .draining (c.timer + grace) }
  | finishes {a : LoopAction} (itself : a = .notice ∨ a = .close) (lasts : l.phase ≠ .finished)
    (idle : l.runs = []) : Advance z grace isStopped c l a { l with phase := .finished }
  | aborts {deadline : Nat} (drains : l.phase = .draining deadline) (due : deadline ≤ c.timer) :
    Advance z grace isStopped c l .close { l.abortAll with phase := .finished }
  | begins {run : JobRun} (member : run ∈ l.runs) (waits : run.hasBegun = false) :
    Advance z grace isStopped c l (.beginRun run.number) { l with
      runs := l.runs.map fun r => if r.number == run.number then { r with hasBegun := true } else r
      metrics := l.metrics ++ [.jobStarted l.job] }
  | ends {run : JobRun} {how : RunEnd} (member : run ∈ l.runs) (goes : run.hasBegun = true)
    (itself : how ≠ .aborted) :
    Advance z grace isStopped c l (.endRun run.number how) (l.endRun run.number how)

/-- What a step of a loop can do: nothing to its runs, start one, let one begin, let one end by
itself, or abort all. -/
inductive Change (isStopped : Bool) (l : JobLoop) : LoopAction → JobLoop → Prop where
  | quiet {a : LoopAction} (phase : LoopPhase) (idle : phase = .finished → l.runs = [])
    (silent : ∀ number how, a ≠ .endRun number how) : Change isStopped l a { l with phase := phase }
  | spawns (time : Int) (goesOn : isStopped = false) : Change isStopped l .fire (l.fire time)
  | begins {run : JobRun} (member : run ∈ l.runs) (waits : run.hasBegun = false) :
    Change isStopped l (.beginRun run.number) { l with
      runs := l.runs.map fun r => if r.number == run.number then { r with hasBegun := true } else r
      metrics := l.metrics ++ [.jobStarted l.job] }
  | ends {run : JobRun} {how : RunEnd} (member : run ∈ l.runs) (goes : run.hasBegun = true)
    (itself : how ≠ .aborted) : Change isStopped l (.endRun run.number how) (l.endRun run.number how)
  | aborts : Change isStopped l .close { l.abortAll with phase := .finished }

variable {l k : JobLoop} {z : Zone} {grace : Nat} {isStopped : Bool} {c : Clock} {a : LoopAction}
  {t : Int}

theorem plan_of_some (found : l.schedule.next? z (max l.lastTime (c.wall / 1000)) = some t) :
    l.plan z c = { l with phase := .sleeping t (c.timer + (t * 1000 - c.wall).toNat) } := by
  unfold JobLoop.plan
  rw [found]

theorem plan_of_none (found : l.schedule.next? z (max l.lastTime (c.wall / 1000)) = none) :
    l.plan z c = { l with phase := .exhausted } := by
  unfold JobLoop.plan
  rw [found]

theorem step_advance (next : l.step? z grace isStopped c a = some k) :
    Advance z grace isStopped c l a k := by
  cases a with
  | plan =>
    simp only [step?] at next
    split at next <;> cases next
    next planning =>
      cases found : l.schedule.next? z (max l.lastTime (c.wall / 1000)) with
      | some time =>
        rw [plan_of_some found]
        exact .plans planning found
      | none =>
        rw [plan_of_none found]
        exact .runsOut planning found
  | fire =>
    simp only [step?] at next
    split at next
    next time wake sleeps =>
      split at next
      next ready =>
        cases next
        obtain ⟨goesOn, due⟩ : isStopped = false ∧ wake ≤ c.timer := by simpa using ready
        exact .fires sleeps goesOn due
      next => cases next
    next => cases next
  | notice =>
    simp only [step?] at next
    split at next
    next time wake sleeps =>
      split at next <;> cases next
      next stops =>
        split
        next empty => exact .finishes (.inl rfl) (by simp [sleeps]) (List.isEmpty_iff.1 empty)
        next => exact .drains sleeps stops
    next => cases next
  | close =>
    simp only [step?] at next
    split at next
    next waits =>
      split at next <;> cases next
      next empty => exact .finishes (.inr rfl) (by simp [waits]) (List.isEmpty_iff.1 empty)
    next deadline drains =>
      split at next
      next empty =>
        cases next
        exact .finishes (.inr rfl) (by simp [drains]) (List.isEmpty_iff.1 empty)
      next =>
        split at next <;> cases next
        next due => exact .aborts drains due
    next => cases next
  | beginRun number =>
    simp only [step?] at next
    split at next
    next found =>
      cases next
      obtain ⟨run, member, same⟩ := List.any_eq_true.1 found
      obtain ⟨rfl, waits⟩ : run.number = number ∧ run.hasBegun = false := by simpa using same
      exact .begins member waits
    next => cases next
  | endRun number how =>
    simp only [step?] at next
    split at next
    next found =>
      cases next
      obtain ⟨itself, found⟩ := Bool.and_eq_true_iff.1 found
      obtain ⟨run, member, same⟩ := List.any_eq_true.1 found
      obtain ⟨rfl, goes⟩ : run.number = number ∧ run.hasBegun = true := by simpa using same
      exact .ends member goes (by simpa using itself)
    next => cases next

theorem step_change (next : l.step? z grace isStopped c a = some k) : Change isStopped l a k := by
  cases step_advance next with
  | plans | runsOut | drains => exact .quiet _ (by simp) (by simp)
  | fires _ goesOn _ => exact .spawns _ goesOn
  | finishes itself _ idle =>
    refine .quiet _ (fun _ => idle) ?_
    rcases itself with rfl | rfl <;> simp
  | aborts => exact .aborts
  | begins member waits => exact .begins member waits
  | ends member goes itself => exact .ends member goes itself

/-! ## The books of a loop -/

/-- The books of a loop are right: its runs have numbers of their own, no run that has ended is still
there, and what was counted fits the runs that have begun and those that have ended. -/
structure Accounted (l : JobLoop) : Prop where
  distinct : (l.runs.map (·.number)).Nodup
  spawned : ∀ run ∈ l.runs, run.number < l.fired.length
  past : ∀ e ∈ l.ended, e.1 < l.fired.length
  apart : ∀ e ∈ l.ended, ∀ run ∈ l.runs, run.number ≠ e.1
  own : ∀ m ∈ l.metrics, ∃ outcome,
    m = .jobStarted l.job ∨ m = .jobFinished l.job outcome ∨ m = .jobDuration l.job outcome
  started : l.metrics.count (.jobStarted l.job) = l.ended.length + l.runs.countP (·.hasBegun)
  finished : ∀ outcome, l.metrics.count (.jobFinished l.job outcome) =
    l.ended.countP (·.2.outcome = outcome)
  timed : ∀ outcome, l.metrics.count (.jobDuration l.job outcome) =
    l.metrics.count (.jobFinished l.job outcome)
  idle : l.phase = .finished → l.runs = []

/-- The runs that returned without an error before they could be aborted. -/
def returned (l : JobLoop) : List Nat := (l.ended.filter (·.2 = .succeeded)).map (·.1)

/-- A loop counts nothing of another job. -/
theorem Accounted.foreign (h : Accounted l) {job : String} (other : l.job ≠ job)
    (outcome : Outcome) : .jobStarted job ∉ l.metrics ∧ .jobFinished job outcome ∉ l.metrics ∧
      .jobDuration job outcome ∉ l.metrics := by
  refine ⟨fun hm => ?_, fun hm => ?_, fun hm => ?_⟩ <;>
  · obtain ⟨_, own⟩ := h.own _ hm
    simp [Ne.symm other] at own

/-- Every end of a run counts as a success or as a failure. -/
theorem countP_outcome (ended : List (Nat × RunEnd)) :
    ended.countP (·.2.outcome = .success) + ended.countP (·.2.outcome = .fail) = ended.length := by
  induction ended with
  | nil => rfl
  | cons e rest ih =>
    cases outcome : e.2.outcome <;> simp only [List.countP_cons, List.length_cons, outcome] <;>
      simp <;> omega

/-- The runs that returned are those that were counted as a success. -/
theorem Accounted.length_returned (h : Accounted l) :
    l.metrics.count (.jobFinished l.job .success) = l.returned.length := by
  rw [h.finished, returned, List.length_map, ← List.countP_eq_length_filter]
  apply List.countP_congr
  intro e _
  cases how : e.2 <;> simp [RunEnd.outcome]

/-- A run is the only one of its number. -/
theorem split_at_run {runs : List JobRun} {run : JobRun} (distinct : (runs.map (·.number)).Nodup)
    (member : run ∈ runs) : ∃ before after, runs = before ++ run :: after ∧
      ∀ r ∈ before ++ after, r.number ≠ run.number := by
  obtain ⟨before, after, rfl⟩ := List.append_of_mem member
  refine ⟨before, after, rfl, fun r hr same => ?_⟩
  rw [List.map_append, List.map_cons, List.nodup_middle, List.nodup_cons] at distinct
  apply distinct.1
  rw [← same, ← List.map_append]
  exact List.mem_map_of_mem hr

/-- The runs without one of them. -/
theorem filter_run {before after : List JobRun} {run : JobRun}
    (others : ∀ r ∈ before ++ after, r.number ≠ run.number) :
    (before ++ run :: after).filter (·.number != run.number) = before ++ after := by
  have kept : (before ++ after).filter (·.number != run.number) = before ++ after :=
    List.filter_eq_self.2 fun r hr => by simpa using others r hr
  rw [List.filter_append] at kept
  rw [List.filter_append, List.filter_cons_of_neg (by simp), kept]

/-- The books of a loop tell a run from all others, so that it can be taken out alone. -/
theorem Accounted.without_run (h : Accounted l) {run : JobRun} (member : run ∈ l.runs) :
    ∃ before after, l.runs = before ++ run :: after ∧
      (∀ r ∈ before ++ after, r.number ≠ run.number) ∧
      l.runs.filter (·.number != run.number) = before ++ after ∧
      (before ++ after).Sublist l.runs := by
  obtain ⟨before, after, runs, others⟩ := split_at_run h.distinct member
  have rest := filter_run others
  rw [← runs] at rest
  refine ⟨before, after, runs, others, rest, ?_⟩
  rw [← rest]
  exact List.filter_sublist

/-- The runs once one of them has begun. -/
theorem begin_run {before after : List JobRun} {run : JobRun}
    (others : ∀ r ∈ before ++ after, r.number ≠ run.number) :
    (before ++ run :: after).map (fun r =>
        if r.number == run.number then { r with hasBegun := true } else r) =
      before ++ { run with hasBegun := true } :: after := by
  have kept : (before ++ after).map (fun r =>
      if r.number == run.number then { r with hasBegun := true } else r) = before ++ after := by
    refine (List.map_congr_left fun r hr => ?_).trans (List.map_id _)
    simp [others r hr]
  rw [List.map_append] at kept
  obtain ⟨first, last⟩ := List.append_inj' kept (List.length_map _)
  rw [List.map_append, List.map_cons, first, last]
  simp

/-- The books of a loop that starts are right. -/
theorem Accounted.fresh (job : String) (schedule : Schedule) (time : Int) :
    Accounted { job := job, schedule := schedule, lastTime := time } where
  distinct := List.nodup_nil
  spawned := by simp
  past := by simp
  apart := by simp
  own := by simp
  started := rfl
  finished := fun _ => rfl
  timed := fun _ => rfl
  idle := fun _ => rfl

theorem Accounted.quiet (h : Accounted l) (phase : LoopPhase)
    (idle : phase = .finished → l.runs = []) : Accounted { l with phase := phase } :=
  { h with idle := idle }

/-- A new run has a new number. -/
theorem Accounted.fire (h : Accounted l) (time : Int) : Accounted (l.fire time) := by
  have fresh : ∀ run ∈ l.runs, run.number ≠ l.fired.length := by
    intro run hrun
    have old := h.spawned run hrun
    omega
  exact {
    h with
    distinct := by
      rw [JobLoop.fire, List.map_append, List.map_singleton, List.nodup_append]
      refine ⟨h.distinct, List.nodup_singleton _, fun n hn m hm => ?_⟩
      obtain ⟨run, hrun, rfl⟩ := List.mem_map.1 hn
      rw [List.mem_singleton.1 hm]
      exact fresh run hrun
    spawned := by
      intro run hrun
      simp only [JobLoop.fire, List.mem_append, List.mem_singleton, List.length_append,
        List.length_singleton] at hrun ⊢
      rcases hrun with old | rfl
      · have bound := h.spawned run old
        omega
      · exact Nat.lt_succ_self _
    past := by
      intro e he
      have bound := h.past e he
      simp only [JobLoop.fire, List.length_append, List.length_singleton]
      omega
    apart := by
      intro e he run hrun
      simp only [JobLoop.fire, List.mem_append, List.mem_singleton] at hrun
      rcases hrun with old | rfl
      · exact h.apart e he run old
      · exact Nat.ne_of_gt (h.past e he)
    started := by
      simp only [JobLoop.fire, List.countP_append, List.countP_singleton, h.started]
      rfl
    idle := by simp [JobLoop.fire] }

/-- A run that begins is counted. -/
theorem Accounted.begins (h : Accounted l) {run : JobRun} (member : run ∈ l.runs)
    (waits : run.hasBegun = false) : Accounted { l with
      runs := l.runs.map fun r => if r.number == run.number then { r with hasBegun := true } else r
      metrics := l.metrics ++ [.jobStarted l.job] } := by
  obtain ⟨before, after, runs, others⟩ := split_at_run h.distinct member
  have begun := begin_run others
  rw [← runs] at begun
  rw [begun]
  have numbers : (before ++ { run with hasBegun := true } :: after).map (·.number) =
      l.runs.map (·.number) := by simp [runs]
  have counted : (before ++ { run with hasBegun := true } :: after).countP (·.hasBegun) =
      l.runs.countP (·.hasBegun) + 1 := by
    simp only [runs, List.countP_append, List.countP_cons, waits, Bool.false_eq_true, if_true,
      if_false]
    omega
  have same : ∀ r ∈ before ++ { run with hasBegun := true } :: after,
      ∃ r' ∈ l.runs, r'.number = r.number := by
    intro r hr
    have number := List.mem_map_of_mem (f := (·.number)) hr
    rw [numbers] at number
    obtain ⟨r', hr', same⟩ := List.mem_map.1 number
    exact ⟨r', hr', same⟩
  exact {
    h with
    distinct := by rw [numbers]; exact h.distinct
    spawned := by
      intro r hr
      obtain ⟨r', hr', same⟩ := same r hr
      exact same ▸ h.spawned r' hr'
    apart := by
      intro e he r hr
      obtain ⟨r', hr', same⟩ := same r hr
      exact same ▸ h.apart e he r' hr'
    own := by
      intro m hm
      rcases List.mem_append.1 hm with old | new
      · exact h.own m old
      · exact ⟨.success, .inl (List.mem_singleton.1 new)⟩
    started := by
      simp only [List.count_append, List.count_singleton_self, h.started, counted]
      omega
    finished := fun outcome => by simpa using h.finished outcome
    timed := fun outcome => by simpa using h.timed outcome
    idle := by
      intro finished
      rw [h.idle finished] at member
      cases member }

/-- A run that ends is counted with the way in which it does. -/
theorem Accounted.endRun (h : Accounted l) {run : JobRun} (member : run ∈ l.runs)
    (goes : run.hasBegun = true) (how : RunEnd) : Accounted (l.endRun run.number how) := by
  obtain ⟨before, after, runs, others, rest, fewer⟩ := h.without_run member
  have counted : l.runs.countP (·.hasBegun) = (before ++ after).countP (·.hasBegun) + 1 := by
    simp only [runs, List.countP_append, List.countP_cons, goes, if_true]
    omega
  simp only [JobLoop.endRun, rest]
  exact {
    distinct := h.distinct.sublist (fewer.map _)
    spawned := fun r hr => h.spawned r (fewer.subset hr)
    past := by
      intro e he
      rcases List.mem_append.1 he with old | new
      · exact h.past e old
      · rw [List.mem_singleton.1 new]
        exact h.spawned run member
    apart := by
      intro e he r hr
      rcases List.mem_append.1 he with old | new
      · exact h.apart e old r (fewer.subset hr)
      · rw [List.mem_singleton.1 new]
        exact others r hr
    own := by
      intro m hm
      rcases List.mem_append.1 hm with old | new
      · exact h.own m old
      · simp only [List.mem_cons, List.not_mem_nil, or_false] at new
        exact ⟨how.outcome, .inr new⟩
    started := by
      have started := h.started
      have none : List.count (.jobStarted l.job)
          [.jobFinished l.job how.outcome, Metric.jobDuration l.job how.outcome] = 0 := by simp
      simp only [List.count_append, none, started, counted, List.length_append,
        List.length_singleton]
      omega
    finished := by
      intro outcome
      have one : List.count (.jobFinished l.job outcome)
          [.jobFinished l.job how.outcome, Metric.jobDuration l.job how.outcome] =
            [(run.number, how)].countP (·.2.outcome = outcome) := by
        by_cases same : how.outcome = outcome <;> simp [same]
      rw [List.count_append, List.countP_append, h.finished, one]
    timed := by
      intro outcome
      simp only [List.count_append, h.timed]
      simp [List.count_cons]
    idle := by
      intro finished
      rw [h.idle finished] at member
      cases member }

/-- A run that is gone before it has begun leaves no trace. -/
theorem Accounted.drop (h : Accounted l) {run : JobRun} (member : run ∈ l.runs)
    (waits : run.hasBegun = false) :
    Accounted { l with runs := l.runs.filter (·.number != run.number) } := by
  obtain ⟨before, after, runs, others, rest, fewer⟩ := h.without_run member
  rw [rest]
  exact {
    h with
    distinct := h.distinct.sublist (fewer.map _)
    spawned := fun r hr => h.spawned r (fewer.subset hr)
    apart := fun e he r hr => h.apart e he r (fewer.subset hr)
    started := by
      rw [h.started, runs]
      simp [waits]
    idle := by
      intro finished
      rw [h.idle finished] at member
      cases member }

/-- Aborting runs one after another ends them all, and none of them returns. -/
theorem Accounted.abort (runs : List JobRun) (h : Accounted l) (all : l.runs = runs) :
    Accounted (runs.foldl abortRun l) ∧ (runs.foldl abortRun l).runs = [] ∧
      (runs.foldl abortRun l).returned = l.returned ∧ (runs.foldl abortRun l).job = l.job ∧
      (runs.foldl abortRun l).fired = l.fired := by
  induction runs generalizing l with
  | nil => exact ⟨h, all, rfl, rfl, rfl⟩
  | cons run rest ih =>
    have member : run ∈ l.runs := by rw [all]; exact List.mem_cons_self
    have others : ∀ r ∈ [] ++ rest, r.number ≠ run.number := by
      have distinct := h.distinct
      rw [all, List.map_cons, List.nodup_cons] at distinct
      intro r hr same
      exact distinct.1 (same ▸ List.mem_map_of_mem hr)
    have left : l.runs.filter (·.number != run.number) = rest := by
      rw [all]
      exact filter_run others
    have one : Accounted (l.abortRun run) ∧ (l.abortRun run).runs = rest ∧
        (l.abortRun run).returned = l.returned ∧ (l.abortRun run).job = l.job ∧
        (l.abortRun run).fired = l.fired := by
      cases goes : run.hasBegun with
      | true =>
        have ends : l.abortRun run = l.endRun run.number .aborted := by
          rw [abortRun, goes, if_pos rfl]
        rw [ends]
        exact ⟨h.endRun member goes .aborted, left, by simp [returned, JobLoop.endRun], rfl, rfl⟩
      | false =>
        have drops : l.abortRun run = { l with runs := l.runs.filter (·.number != run.number) } := by
          rw [abortRun, goes, if_neg Bool.false_ne_true]
        rw [drops]
        exact ⟨h.drop member goes, left, rfl, rfl, rfl⟩
    obtain ⟨accounted, runs, returned, job, fired⟩ := one
    obtain ⟨accounted', runs', returned', job', fired'⟩ := ih accounted runs
    exact ⟨accounted', runs', returned'.trans returned, job'.trans job, fired'.trans fired⟩

/-- The number of the run that returns in a step. -/
def returns : LoopAction → List Nat
  | .endRun number .succeeded => [number]
  | _ => []

theorem nodup_returns (a : LoopAction) : (returns a).Nodup := by
  unfold returns
  split
  · exact List.nodup_singleton _
  · exact List.nodup_nil

/-- What a step of a loop means for its books: they stay right, no run is started once the scheduler
is stopped, and a run that returns is one that was still there. -/
structure Kept (isStopped : Bool) (l : JobLoop) (a : LoopAction) (k : JobLoop) : Prop where
  accounted : Accounted k
  job : k.job = l.job
  fired : isStopped = true → k.fired = l.fired
  returned : k.returned = l.returned ++ returns a
  present : ∀ number ∈ returns a, ∃ run ∈ l.runs, run.number = number

/-- Every step keeps the books of a loop. -/
theorem Accounted.step (h : Accounted l) (next : l.step? z grace isStopped c a = some k) :
    Kept isStopped l a k := by
  cases step_change next with
  | quiet phase idle silent =>
    have nobody : returns a = [] := by
      unfold returns
      split
      next number => exact absurd rfl (silent number .succeeded)
      next => rfl
    exact {
      accounted := h.quiet phase idle
      job := rfl
      fired := fun _ => rfl
      returned := by rw [nobody, List.append_nil]; rfl
      present := by simp [nobody] }
  | spawns time goesOn =>
    exact {
      accounted := h.fire time
      job := rfl
      fired := by
        intro stopped
        rw [goesOn] at stopped
        cases stopped
      returned := (List.append_nil _).symm
      present := by simp [returns] }
  | begins member waits =>
    exact {
      accounted := h.begins member waits
      job := rfl
      fired := fun _ => rfl
      returned := (List.append_nil _).symm
      present := by simp [returns] }
  | @ends run how member goes itself =>
    exact {
      accounted := h.endRun member goes how
      job := rfl
      fired := fun _ => rfl
      returned := by
        rw [returned, returned, JobLoop.endRun, List.filter_append, List.map_append]
        cases how <;> rfl
      present := by
        intro number hn
        cases how with
        | succeeded => exact ⟨run, member, (List.mem_singleton.1 hn).symm⟩
        | failed | crashed | aborted => cases hn }
  | aborts =>
    obtain ⟨accounted, runs, returned, job, fired⟩ := h.abort l.runs rfl
    exact {
      accounted := accounted.quiet .finished fun _ => runs
      job := job
      fired := fun _ => fired
      returned := returned.trans (List.append_nil _).symm
      present := by simp [returns] }

end JobLoop

end FlagAlerts
