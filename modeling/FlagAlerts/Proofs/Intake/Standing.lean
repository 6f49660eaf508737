import FlagAlerts.Proofs.Intake.Steps

/-!
# What runs were told and who has left

Apart from its messages, a run of an intake is what it was told: that it is closed, cancelled or
abandoned. Workers tell a run nothing. A step of a worker changes the channel of its own run only,
and after it the worker is at work or the run was swept; so an abandoned run whose workers have all
left has an empty channel.
-/

namespace FlagAlerts

/-- What a run was told: the run without its messages. -/
def IntakeRun.orders (run : IntakeRun) : IntakeRun := { run with channel := [] }

namespace Intake

/-- What all runs were told. -/
def orders (s : Intake) : List IntakeRun := s.runs.map IntakeRun.orders

/-- For every worker its run, and whether it has left. -/
def attendance (s : Intake) : List (Nat × Bool) := s.workers.map fun w => (w.run, w.phase == .gone)

/-- No abandoned run without workers has messages. -/
def Swept (s : Intake) : Prop :=
  ∀ r own, s.runs[r]? = some own → own.isAbandoned = true → s.isDeserted r = true → own.channel = []

/-- What a step of a worker may do to runs and workers. -/
structure Stepped (i : Nat) (w : Worker) (s t : Intake) : Prop where
  orders : t.orders = s.orders
  channels : ∀ r, r ≠ w.run → t.runs[r]? = s.runs[r]?
  attendance : ∃ hasLeft, t.attendance = s.attendance.set i (w.run, hasLeft)
  swept : t.attendance[i]? = some (w.run, false) ∨ ∃ u : Intake, t = u.sweep w.run

section Frames

variable {s t : Intake} {i r : Nat} {w v : Worker}

theorem getElem?_orders (s : Intake) (r : Nat) :
    s.orders[r]? = s.runs[r]?.map IntakeRun.orders := by
  simp [orders]

theorem getElem?_attendance (h : s.workers[i]? = some w) :
    s.attendance[i]? = some (w.run, w.phase == .gone) := by
  simp [attendance, h]

/-- A run is deserted if none of its workers is at work. -/
theorem isDeserted_iff_attendance :
    s.isDeserted r = true ↔ ∀ j : Nat, s.attendance[j]? ≠ some (r, false) := by
  rw [isDeserted_iff]
  constructor
  · intro gone j present
    rw [attendance, List.getElem?_map] at present
    obtain ⟨w, hw, same⟩ := Option.map_eq_some_iff.1 present
    have left := gone w (List.mem_of_getElem? hw) (congrArg (·.1) same)
    simp [left] at same
  · intro absent w hw run
    obtain ⟨j, hj⟩ := List.mem_iff_getElem?.1 hw
    by_contra stays
    exact absent j (by rw [getElem?_attendance hj, run, beq_false_of_ne stays])

theorem isDeserted_congr (h : t.attendance = s.attendance) (r : Nat) :
    t.isDeserted r = s.isDeserted r := by
  rw [Bool.eq_iff_iff, isDeserted_iff_attendance, isDeserted_iff_attendance, h]

/-- Whether a run is deserted does not depend on the workers of others. -/
theorem isDeserted_of_other {hasLeft : Bool} (h : s.workers[i]? = some w) (other : r ≠ w.run)
    (attendance : t.attendance = s.attendance.set i (w.run, hasLeft)) :
    t.isDeserted r = s.isDeserted r := by
  rw [Bool.eq_iff_iff, isDeserted_iff_attendance, isDeserted_iff_attendance, attendance]
  refine forall_congr' fun j => not_congr ?_
  by_cases same : i = j
  · subst same
    rw [getElem?_attendance h, List.getElem?_set]
    simp [Ne.symm other]
  · rw [List.getElem?_set_ne same]

theorem setRun_frame (s : Intake) (change : IntakeRun → IntakeRun) :
    (s.setRun r change).workers = s.workers ∧
      ∀ r', r' ≠ r → (s.setRun r change).runs[r']? = s.runs[r']? :=
  ⟨rfl, fun _ h => List.getElem?_modify_ne _ _ (Ne.symm h)⟩

/-- What a run is told, it is told apart from its messages. -/
theorem orders_setRun (s : Intake) (r : Nat) (change : IntakeRun → IntakeRun)
    (same : ∀ run, (change run).orders = (change run.orders).orders) :
    (s.setRun r change).orders = s.orders.modify r fun o => (change o).orders := by
  apply List.ext_getElem?
  intro j
  by_cases own : r = j
  · subst own
    rw [getElem?_orders, setRun, List.getElem?_modify_eq, List.getElem?_modify_eq, getElem?_orders,
      Option.map_eq_map, Option.map_eq_map, Option.map_map, Option.map_map]
    exact Option.map_congr fun run _ => same run
  · simp [orders, setRun, List.getElem?_modify_ne _ _ own]

/-- A run that only changes its channel was told nothing. -/
theorem orders_setChannel (s : Intake) (r : Nat) (channel : IntakeRun → List BusMessage) :
    (s.setRun r fun run => { run with channel := channel run }).orders = s.orders := by
  apply List.ext_getElem?
  intro j
  by_cases own : r = j
  · subst own
    cases h : s.runs[r]? <;> simp [orders, setRun, h, IntakeRun.orders]
  · simp [orders, setRun, List.getElem?_modify_ne _ _ own]

theorem sweep_frame (s : Intake) (r : Nat) :
    (s.sweep r).workers = s.workers ∧ (s.sweep r).orders = s.orders ∧
      ∀ r', r' ≠ r → (s.sweep r).runs[r']? = s.runs[r']? := by
  unfold sweep
  split
  next run h =>
    split
    · obtain ⟨-, workers, runs⟩ := handBack_frame s run.channel
      obtain ⟨same, others⟩ := setRun_frame (r := r) (s.handBack run.channel)
        fun run => { run with channel := [] }
      refine ⟨same.trans workers, ?_, fun r' h => (others r' h).trans (by rw [runs])⟩
      rw [orders_setChannel (s.handBack run.channel) r fun _ => [], orders, runs, orders]
    · exact ⟨rfl, rfl, fun _ _ => rfl⟩
  next => exact ⟨rfl, rfl, fun _ _ => rfl⟩

/-- After it was swept, an abandoned run without workers has no messages. -/
theorem channel_sweep {own : IntakeRun} (h : (s.sweep r).runs[r]? = some own)
    (abandoned : own.isAbandoned = true) (deserted : (s.sweep r).isDeserted r = true) :
    own.channel = [] := by
  have same : (s.sweep r).isDeserted r = s.isDeserted r := by
    rw [isDeserted, isDeserted, (sweep_frame s r).1]
  rw [same] at deserted
  unfold sweep at h
  split at h
  next run hrun =>
    split at h
    · have runs := (handBack_frame s run.channel).2.2
      obtain rfl : _ = own := by simpa [setRun, runs, hrun] using h
      rfl
    next stays =>
      obtain rfl : run = own := by simpa [hrun] using h
      exact absurd (by rw [abandoned, deserted]; rfl) stays
  next missing => simp [missing] at h

/-- A notice can be told from workers only by a look at whether those who listen have it. -/
theorem map_giveNotice {β : Type} (f : Worker → β)
    (blind : ∀ w place, w.phase = .listening place false →
      f { w with phase := .listening 0 true } = f w) (s : Intake) :
    s.giveNotice.workers.map f = s.workers.map f := by
  simp only [giveNotice]
  split
  next i found =>
    obtain ⟨bound, listens, -⟩ := List.findIdx?_eq_some_iff_getElem.1 found
    have h : s.workers[i]? = some s.workers[i] := List.getElem?_eq_getElem bound
    obtain ⟨place, phase⟩ : ∃ place, s.workers[i].phase = .listening place false := by
      cases phase : s.workers[i].phase with
      | listening place isNoticed => cases isNoticed <;> simp_all [Phase.listeningPlace?]
      | _ => simp [phase, Phase.listeningPlace?] at listens
    rw [workers_setPhase h, List.map_set, blind _ place phase]
    have inRange : i < (s.workers.map f).length := by simpa using bound
    have same := List.set_getElem_self inRange
    rwa [List.getElem_map] at same
  next => rfl

theorem giveNotice_frame (s : Intake) :
    s.giveNotice.runs = s.runs ∧ s.giveNotice.attendance = s.attendance := by
  constructor
  · simp only [giveNotice]
    split <;> rfl
  · apply map_giveNotice
    intro w place phase
    simp [phase]

end Frames

/-! ## Steps of workers -/

section Steps

variable {s t : Intake} {i r : Nat} {w v : Worker} {own : IntakeRun}

/-- A worker goes on to another phase. -/
theorem stepped_of_set (h : s.workers[i]? = some w) (workers : t.workers = s.workers.set i v)
    (same : v.run = w.run) (stays : v.phase ≠ .gone) (orders : t.orders = s.orders)
    (channels : ∀ r, r ≠ w.run → t.runs[r]? = s.runs[r]?) : Stepped i w s t := by
  have attendance : t.attendance = s.attendance.set i (w.run, false) := by
    rw [Intake.attendance, workers, List.map_set, same, beq_false_of_ne stays, Intake.attendance]
  obtain ⟨bound, -⟩ := List.getElem?_eq_some_iff.1 (getElem?_attendance h)
  exact {
    orders := orders
    channels := channels
    attendance := ⟨false, attendance⟩
    swept := .inl (by rw [attendance, List.getElem?_set_self bound]) }

/-- A worker goes on to another phase and changes nothing else of runs and workers. -/
theorem setPhase_stepped (h : s.workers[i]? = some w) (phase : Phase) (stays : phase ≠ .gone)
    (workers : t.workers = (s.setPhase i phase).workers) (runs : t.runs = s.runs) :
    Stepped i w s t :=
  stepped_of_set h (workers.trans (workers_setPhase h phase)) rfl stays
    (by rw [orders, runs, orders]) fun r _ => by rw [runs]

/-- A worker leaves, maybe with a notice for another one. -/
theorem gone_stepped {u : Intake} (runs : u.runs = s.runs)
    (attendance : u.attendance = s.attendance.set i (w.run, true)) :
    Stepped i w s (u.sweep w.run) := by
  obtain ⟨workers, orders, channels⟩ := sweep_frame u w.run
  exact {
    orders := by rw [orders, Intake.orders, runs, Intake.orders]
    channels := fun r other => by rw [channels r other, runs]
    attendance := ⟨true, by rw [Intake.attendance, workers, ← attendance, Intake.attendance]⟩
    swept := .inr ⟨u, rfl⟩ }

theorem attendance_setPhase_gone (h : s.workers[i]? = some w) :
    (s.setPhase i .gone).attendance = s.attendance.set i (w.run, true) := by
  rw [attendance, workers_setPhase h, List.map_set, attendance]
  rfl

/-- A worker leaves; `u` is the intake with what it had given back. -/
theorem leave_stepped (u : Intake) (h : s.workers[i]? = some w) (workers : u.workers = s.workers)
    (runs : u.runs = s.runs) : Stepped i w s (u.leave i w.run) := by
  have h' : u.workers[i]? = some w := by rwa [workers]
  refine gone_stepped runs ?_
  rw [attendance_setPhase_gone h', attendance, workers, attendance]

theorem quit_stepped (h : s.workers[i]? = some w) (next : s.quit i w = some t) :
    Stepped i w s t := by
  unfold quit at next
  split at next
  case h_5 place phase =>
    cases next
    have notice := giveNotice_frame (s.freeMessage.setPhase i .gone)
    refine gone_stepped notice.1 (notice.2.trans ?_)
    exact attendance_setPhase_gone (s := s.freeMessage) h
  case h_9 | h_10 => cases next
  all_goals
    cases next
    exact leave_stepped _ h rfl rfl

theorem pull_stepped (h : s.workers[i]? = some w) (phase : w.phase = .pulling) :
    Stepped i w s (s.pull i w) := by
  simp only [pull, BusQueue.pull]
  by_cases failing : s.queue.failures > 0
  · simp only [failing, if_true]
    exact stepped_of_set h rfl rfl (by simp) rfl fun _ _ => rfl
  · simp only [failing, if_false]
    cases s.queue.messages with
    | cons m rest => exact stepped_of_set h rfl rfl (by simp) rfl fun _ _ => rfl
    | nil =>
      cases s.queue.staysOpen with
      | false =>
        exact leave_stepped { s.freeMessage with health := { s.health with status := .unhealthy } }
          h rfl rfl
      | true =>
        cases noticed : s.queue.hasNotice with
        | true =>
          have same : s.workers = s.workers.set i w := by
            obtain ⟨bound, rfl⟩ := List.getElem?_eq_some_iff.1 h
            rw [List.set_getElem_self]
          exact stepped_of_set h same rfl (by simp [phase]) rfl fun _ _ => rfl
        | false => exact setPhase_stepped h (.listening s.nextPlace false) (by simp) rfl rfl

theorem proceed_stepped (h : s.workers[i]? = some w) (next : s.proceed i w own = some t) :
    Stepped i w s t := by
  unfold proceed at next
  split at next
  case h_1 place phase =>
    split at next
    · cases next
      exact setPhase_stepped h .pulling (by simp) rfl rfl
    · split at next <;> cases next
      exact setPhase_stepped h (.asking (some s.nextPlace)) (by simp) rfl rfl
  case h_2 phase =>
    cases next
    exact pull_stepped h phase
  case h_3 place isNoticed phase =>
    split at next <;> cases next
    exact setPhase_stepped h .pulling (by simp) rfl rfl
  case h_4 deadline phase =>
    split at next <;> cases next
    exact setPhase_stepped h (.asking none) (by simp) rfl rfl
  case h_5 m place phase =>
    split at next
    · cases next
      exact setPhase_stepped h (.pacing m none) (by simp) rfl rfl
    · split at next <;> cases next
      exact setPhase_stepped h (.weighing m (some s.nextPlace)) (by simp) rfl rfl
  case h_6 m place phase =>
    split at next
    · cases next
      unfold takeTurn
      split
      · exact setPhase_stepped h (.resting m) (by simp) rfl rfl
      · exact setPhase_stepped h (.sending m) (by simp) rfl rfl
    · split at next <;> cases next
      exact setPhase_stepped h (.pacing m (some s.nextPlace)) (by simp) rfl rfl
  case h_7 m phase =>
    split at next <;> cases next
    exact setPhase_stepped h (.sending m) (by simp) rfl rfl
  case h_8 m phase =>
    split at next
    · cases next
      exact leave_stepped (s.settle m false) h rfl rfl
    · split at next <;> cases next
      refine stepped_of_set h (workers_setPhase h (.asking none)) rfl (by simp)
        (orders_setChannel _ _ _) ?_
      exact (setRun_frame (s.setPhase i (.asking none)) _).2
  case h_9 => cases next

/-- Every step of a worker is made by one that is there, and leaves what runs were told as it is. -/
theorem work_stepped (next : s.work? i = some t) :
    ∃ w, s.workers[i]? = some w ∧ Stepped i w s t := by
  unfold work? at next
  cases h : s.workers[i]? with
  | none => simp [h] at next
  | some w =>
    cases hrun : s.runs[w.run]? with
    | none => simp [h, hrun] at next
    | some run =>
      simp only [h, hrun, Option.bind_eq_bind, Option.bind_some] at next
      rcases ite_eq_iff.1 next with ⟨-, leaves⟩ | ⟨-, stays⟩
      · exact ⟨w, rfl, quit_stepped h leaves⟩
      · exact ⟨w, rfl, proceed_stepped h stays⟩

/-- No abandoned run is left with messages but without workers. -/
theorem Swept.stepped (swept : s.Swept) (h : s.workers[i]? = some w) (step : Stepped i w s t) :
    t.Swept := by
  intro r own hrun abandoned deserted
  by_cases same : r = w.run
  · subst same
    rcases step.swept with present | ⟨u, rfl⟩
    · exact absurd present (isDeserted_iff_attendance.1 deserted i)
    · exact channel_sweep hrun abandoned deserted
  · obtain ⟨hasLeft, attendance⟩ := step.attendance
    rw [step.channels r same] at hrun
    rw [isDeserted_of_other h same attendance] at deserted
    exact swept r own hrun abandoned deserted

end Steps

end Intake

end FlagAlerts
