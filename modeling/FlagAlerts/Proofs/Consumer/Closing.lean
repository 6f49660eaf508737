import FlagAlerts.Proofs.Consumer.Abandonment
import FlagAlerts.Proofs.Consumer.Holding
import FlagAlerts.Proofs.Intake.Pacing

/-!
# How a run closes down

A run that is over needs nobody else to come to its end, and no time. It settles the message that it
is done with, tells its workers to leave and closes its channel. From then on every step of one of its
workers is the last one of that worker, whatever the worker waits for, so that as many steps are left
as there are workers; and when all of them have left the run finishes.
-/

namespace FlagAlerts

namespace Intake

/-- How many workers of a run have not left. -/
def atWork (s : Intake) (r : Nat) : Nat := s.attendance.count (r, false)

section Clock

variable {s t u : Intake} {r : Nat}

theorem SameClock.trans (first : SameClock s t) (second : SameClock t u) : SameClock s u :=
  ⟨second.now.trans first.now, second.limits.trans first.limits⟩

theorem close_clock (s : Intake) (r : Nat) : SameClock s (s.close r) := by
  unfold close
  split
  next run _ =>
    obtain ⟨-, now, limits⟩ := handBack_rate s run.channel
    exact ⟨now, limits⟩
  next => exact ⟨rfl, rfl⟩

theorem abandon_clock (s : Intake) (r : Nat) : SameClock s (s.abandon r) := by
  obtain ⟨-, now, limits⟩ := sweep_rate
    (s.setRun r fun run => { run with isClosed := true, isAbandoned := true }) r
  exact ⟨now, limits⟩

theorem settleHeld_clock {id : String} {isAcked : Bool} (h : s.settleHeld? id isAcked = some t) :
    SameClock s t :=
  (still_of_step (a := .settle id isAcked) h (by simp) (by simp)).clock

theorem receive_clock {m : BusMessage} (h : s.receive? r = some (m, t)) : SameClock s t := by
  obtain ⟨own, rest, -, -, -, rfl⟩ := receive_eq_some h
  exact ⟨rfl, rfl⟩

end Clock

section Leaving

variable {s t : Intake} {i r : Nat} {w : Worker} {own : IntakeRun}

theorem isDeserted_iff_atWork : s.isDeserted r = true ↔ s.atWork r = 0 := by
  rw [isDeserted_iff_attendance, atWork, List.count_eq_zero, List.mem_iff_getElem?, not_exists]

theorem attendance_leave (u : Intake) (h : u.workers[i]? = some w) :
    (u.leave i w.run).attendance = u.attendance.set i (w.run, true) := by
  rw [← attendance_setPhase_gone h, attendance, leave, (sweep_frame _ _).1, attendance]

/-- A worker that was told to leave does so with its next step, whatever it was doing, once its channel
is closed. -/
theorem attendance_of_told (hw : s.workers[i]? = some w) (hown : s.runs[w.run]? = some own)
    (closed : own.isClosed = true) (told : own.isCancelled = true) (next : s.work? i = some t) :
    t.attendance = s.attendance.set i (w.run, true) := by
  unfold work? at next
  simp only [hw, hown, told, Option.bind_eq_bind, Option.bind_some, Bool.true_and] at next
  cases phase : w.phase with
  | gone => simp [phase, quit] at next
  | sending m =>
    obtain rfl : (s.settle m false).leave i w.run = t := by
      simpa [phase, Intake.proceed, closed] using next
    exact attendance_leave (s.settle m false) hw
  | asking place =>
    obtain rfl : s.leave i w.run = t := by simpa [phase, quit] using next
    exact attendance_leave s hw
  | pulling | backingOff deadline =>
    obtain rfl : s.freeMessage.leave i w.run = t := by simpa [phase, quit] using next
    exact attendance_leave s.freeMessage hw
  | weighing m place =>
    obtain rfl : (s.settleLight m false).leave i w.run = t := by simpa [phase, quit] using next
    exact attendance_leave (s.settleLight m false) hw
  | pacing m place | resting m =>
    obtain rfl : (s.settle m false).leave i w.run = t := by simpa [phase, quit] using next
    exact attendance_leave (s.settle m false) hw
  | listening place isNoticed =>
    cases isNoticed with
    | false =>
      obtain rfl : s.freeMessage.leave i w.run = t := by simpa [phase, quit] using next
      exact attendance_leave s.freeMessage hw
    | true =>
      -- it passes its notice on, which leaves the attendance as it is
      obtain rfl : (s.freeMessage.setPhase i .gone).giveNotice.sweep w.run = t := by
        simpa [phase, quit] using next
      have gone := attendance_setPhase_gone (s := s.freeMessage) hw
      rw [attendance, (sweep_frame _ _).1, ← attendance, (giveNotice_frame _).2, gone]
      rfl

/-- With a worker that leaves there is one less at work. -/
theorem atWork_of_left (hw : s.workers[i]? = some w) (works : w.phase ≠ .gone)
    (left : t.attendance = s.attendance.set i (w.run, true)) :
    t.atWork w.run + 1 = s.atWork w.run := by
  have here : s.attendance[i]? = some (w.run, false) := by
    rw [getElem?_attendance hw, beq_false_of_ne works]
  obtain ⟨bound, at_⟩ := List.getElem?_eq_some_iff.1 here
  have positive : 0 < s.attendance.count (w.run, false) :=
    List.count_pos_iff.2 (List.mem_of_getElem? here)
  have other : ((w.run, true) == (w.run, false)) = false := by simp
  rw [atWork, atWork, left, List.count_set bound, at_, other]
  simp only [beq_self_eq_true, if_true, Bool.false_eq_true, if_false]
  omega

end Leaving

end Intake

namespace Consumer

open Intake

/-- A run leaves: it has told its workers to do so, and its channel is closed. -/
structure IsLeaving (c : Consumer) (i : Nat) (run : ConsumerRun) : Prop where
  present : c.runs[i]? = some run
  leaves : run.phase = .leaving
  number : run.run = i
  orders : c.intake.orders[i]? = some { isClosed := true, isCancelled := true }

/-- Steps of a run and of its workers, one after another. -/
inductive OwnSteps (i : Nat) : Consumer → Consumer → Prop where
  | none (c : Consumer) : OwnSteps i c c
  | poll {b c d : Consumer} (next : b.poll? i = some c) (rest : OwnSteps i c d) : OwnSteps i b d
  | work {b d : Consumer} {j : Nat} {w : Worker} {s : Intake}
      (present : b.intake.workers[j]? = some w) (own : w.run = i)
      (next : b.intake.work? j = some s) (rest : OwnSteps i { b with intake := s } d) :
      OwnSteps i b d

/-- Neither the run nor one of its workers can take a step. -/
def isQuietFor (c : Consumer) (i : Nat) : Bool := (c.poll? i).isNone && c.isAtRest i

/-! ## Nothing but time changes the instant -/

section Clock

variable {c d : Consumer} {i : Nat} {run : ConsumerRun}

theorem cutOff_clock {done : List (Nat × Effect)} (h : c.cutOff? i run done = some d) :
    SameClock c.intake d.intake ∧ d.handler = c.handler := by
  unfold cutOff? at h
  cases phase : run.phase with
  | waiting | leaving =>
    simp only [phase, Option.bind_eq_bind, Option.bind_some, Option.pure_def,
      Option.some.injEq] at h
    subst h
    exact ⟨abandon_clock c.intake run.run, rfl⟩
  | handling m start finish =>
    simp only [phase, Option.bind_eq_bind, Option.bind_eq_some_iff, Option.pure_def,
      Option.some.injEq] at h
    obtain ⟨s, held, rfl⟩ := h
    exact ⟨(settleHeld_clock held).trans (abandon_clock s run.run), rfl⟩
  | finished | aborted => simp [phase] at h

theorem poll_clock (h : c.poll? i = some d) :
    SameClock c.intake d.intake ∧ d.handler = c.handler := by
  obtain ⟨run, -, polled⟩ := poll_eq_some h
  cases polled with
  | left waits ends next =>
    subst next
    have told : SameClock c.intake (c.intake.cancel run.run) := ⟨rfl, rfl⟩
    exact ⟨told.trans (close_clock _ run.run), rfl⟩
  | took waits goesOn received next =>
    subst next
    exact ⟨receive_clock received, rfl⟩
  | broke waits goesOn received next =>
    obtain ⟨clock, handler⟩ := cutOff_clock next
    exact ⟨(receive_clock received).trans clock, handler⟩
  | settled handles held next =>
    subst next
    exact ⟨settleHeld_clock held, rfl⟩
  | finished leaves deserted next =>
    subst next
    exact ⟨⟨rfl, rfl⟩, rfl⟩

/-- Nothing that happens changes the handler, and only time changes the instant. -/
theorem step_clock {a : Action} (h : c.step? a = some d) (timeless : ∀ ms, a ≠ .pass ms) :
    d.intake.now = c.intake.now ∧ d.handler = c.handler := by
  cases a with
  | push attributes data =>
    cases h
    have noticed := giveNotice_aside { c.intake with queue := c.intake.queue.push attributes data }
    exact ⟨noticed.clock.now, rfl⟩
  | failPull | start | cancel r =>
    cases h
    exact ⟨rfl, rfl⟩
  | abort r =>
    obtain ⟨run, done, -, next⟩ := abort_eq_some h
    obtain ⟨clock, handler⟩ := cutOff_clock next
    exact ⟨clock.now, handler⟩
  | poll r =>
    obtain ⟨clock, handler⟩ := poll_clock h
    exact ⟨clock.now, handler⟩
  | work j =>
    obtain ⟨t, next, rfl⟩ := Option.map_eq_some_iff.1 h
    exact ⟨(work_turn next).2.now, rfl⟩
  | pass ms => exact absurd rfl (timeless ms)

theorem OwnSteps.now_eq (steps : OwnSteps i c d) : d.intake.now = c.intake.now := by
  induction steps with
  | none c => rfl
  | poll next rest ih => exact ih.trans (poll_clock next).1.now
  | work present own next rest ih => exact ih.trans (work_turn next).2.now

end Clock

/-! ## A run that leaves -/

section Leaving

variable {c d : Consumer} {i j : Nat} {run : ConsumerRun} {w : Worker} {t : Intake}

theorem Standing.isLeaving (st : Standing c) (hrun : c.runs[i]? = some run)
    (leaves : run.phase = .leaving) (number : run.run = i) : IsLeaving c i run := by
  obtain ⟨o, told, accords⟩ := st.told i run hrun
  rw [leaves] at accords
  exact ⟨hrun, leaves, number, told.trans (congrArg some accords)⟩

theorem IsLeaving.own (leaving : IsLeaving c i run) :
    ∃ own, c.intake.runs[i]? = some own ∧ own.isClosed = true ∧ own.isCancelled = true := by
  have told := leaving.orders
  rw [getElem?_orders] at told
  obtain ⟨own, hown, same⟩ := Option.map_eq_some_iff.1 told
  simp only [IntakeRun.orders, IntakeRun.mk.injEq, true_and] at same
  exact ⟨own, hown, same.1, same.2.1⟩

/-- As long as a run that leaves has workers, each of them can take a step. -/
theorem IsLeaving.work_isSome (leaving : IsLeaving c i run) (hw : c.intake.workers[j]? = some w)
    (same : w.run = i) (works : w.phase ≠ .gone) : (c.intake.work? j).isSome = true := by
  obtain ⟨own, hown, closed, told⟩ := leaving.own
  rw [Option.isSome_iff_ne_none]
  intro stuck
  exact works (gone_of_told hw (same ▸ hown) closed told stuck)

/-- Each step of a worker takes a run that leaves nearer to its end. -/
theorem IsLeaving.work (leaving : IsLeaving c i run) (hw : c.intake.workers[j]? = some w)
    (same : w.run = i) (next : c.intake.work? j = some t) :
    IsLeaving { c with intake := t } i run ∧ t.atWork i + 1 = c.intake.atWork i := by
  obtain ⟨own, hown, closed, told⟩ := leaving.own
  have hown' : c.intake.runs[w.run]? = some own := same ▸ hown
  have left := attendance_of_told hw hown' closed told next
  obtain ⟨v, hv, stepped⟩ := work_stepped next
  refine ⟨⟨leaving.present, leaving.leaves, leaving.number, ?_⟩, ?_⟩
  · exact (congrArg (·[i]?) stepped.orders).trans leaving.orders
  · rw [← same]
    exact atWork_of_left hw (work_gone hw next) left

/-- A run that leaves can finish exactly if its workers have left, and then it does. -/
theorem IsLeaving.poll (leaving : IsLeaving c i run) :
    c.poll? i = if c.intake.isDeserted i then some (c.setRun i { run with phase := .finished })
      else none := by
  unfold poll?
  simp only [leaving.present, leaving.leaves, leaving.number, Option.bind_eq_bind,
    Option.bind_some]

/-- A run that leaves is not quiet before it has finished. -/
theorem IsLeaving.not_quiet (leaving : IsLeaving c i run) : c.isQuietFor i = false := by
  rw [isQuietFor, Bool.and_eq_false_iff]
  cases deserted : c.intake.isDeserted i with
  | true =>
    left
    rw [leaving.poll, deserted]
    rfl
  | false =>
    right
    rw [Bool.eq_false_iff]
    intro rest
    have stays : ¬ c.intake.isDeserted i = true := by simp [deserted]
    refine stays (isDeserted_iff.2 fun w hw same => ?_)
    obtain ⟨j, hj⟩ := List.mem_iff_getElem?.1 hw
    by_contra works
    have moves := leaving.work_isSome hj same works
    rw [isAtRest_iff.1 rest j w hj same] at moves
    cases moves

/-- A run that leaves finishes after one step of each of its workers. -/
theorem IsLeaving.finishes (leaving : IsLeaving c i run) :
    ∃ d run', OwnSteps i c d ∧ d.runs[i]? = some run' ∧ run'.phase = .finished := by
  -- by induction on the number of workers that have not left
  induction count : c.intake.atWork i generalizing c with
  | zero =>
    have next := leaving.poll
    rw [isDeserted_iff_atWork.2 count, if_pos rfl] at next
    obtain ⟨bound, -⟩ := List.getElem?_eq_some_iff.1 leaving.present
    exact ⟨_, _, .poll next (.none _), List.getElem?_set_self bound, rfl⟩
  | succ n ih =>
    have stays : (i, false) ∈ c.intake.attendance :=
      List.count_pos_iff.1 (by rw [← atWork, count]; exact Nat.succ_pos n)
    obtain ⟨w, hw, same⟩ := List.mem_map.1 stays
    obtain ⟨own, works⟩ := Prod.mk.inj same
    obtain ⟨j, hj⟩ := List.mem_iff_getElem?.1 hw
    obtain ⟨t, next⟩ := Option.isSome_iff_exists.1
      (leaving.work_isSome hj own (ne_of_beq_false works))
    obtain ⟨leaving', less⟩ := leaving.work hj own next
    obtain ⟨d, run', steps, present, finished⟩ := ih leaving' (by show t.atWork i = n; omega)
    exact ⟨d, run', .work hj own next steps, present, finished⟩

end Leaving

/-! ## A run that is over -/

section Over

variable {limits : Limits} {queue : BusQueue} {handler : Handler} {window i : Nat} {l : Ledger}
  {c d : Consumer} {run : ConsumerRun}

/-- A run that waits and is over leaves. -/
theorem poll_of_over (hrun : c.runs[i]? = some run) (waits : run.phase = .waiting)
    (late : c.isOver run = true) : c.poll? i = some (c.leave i run) := by
  simp [poll?, take?, hrun, waits, late]

/-- A run that waits and is over finishes. -/
theorem finishes_of_waiting (course : Course (idle limits queue handler window) l c)
    (hrun : c.runs[i]? = some run) (waits : run.phase = .waiting) (late : c.isOver run = true) :
    ∃ d run', OwnSteps i c d ∧ d.runs[i]? = some run' ∧ run'.phase = .finished := by
  have next := poll_of_over hrun waits late
  have after := course.move (.act (.poll i)) next
  obtain ⟨bound, -⟩ := List.getElem?_eq_some_iff.1 hrun
  have leaving := after.standing.isLeaving (List.getElem?_set_self bound) rfl
    (course.kept.each i run hrun).number
  obtain ⟨d, run', steps, present, finished⟩ := leaving.finishes
  exact ⟨d, run', .poll next steps, present, finished⟩

/-- A run that is over, and done with its message if it has one, comes to its end by steps of its own
and of its workers, and no time goes by meanwhile. -/
theorem finishes_of_over (course : Course (idle limits queue handler window) l c)
    (hrun : c.runs[i]? = some run) (late : c.isOver run = true) (going : run.phase ≠ .aborted)
    (due : ∀ m start finish, run.phase = .handling m start finish → finish ≤ c.intake.now) :
    ∃ d run', OwnSteps i c d ∧ d.runs[i]? = some run' ∧ run'.phase = .finished := by
  have number := (course.kept.each i run hrun).number
  cases phase : run.phase with
  | waiting => exact finishes_of_waiting course hrun phase late
  | handling m start finish =>
    obtain ⟨s, -, next⟩ :=
      course.holdsInHand.settles hrun phase (due m start finish phase)
    obtain ⟨bound, -⟩ := List.getElem?_eq_some_iff.1 hrun
    have after := course.move (.act (.poll i)) next
    have now := (poll_clock next).1.now
    obtain ⟨d, run', steps, present, finished⟩ :=
      finishes_of_waiting after (List.getElem?_set_self bound) rfl (by
        simp only [isOver] at late ⊢
        rw [now]
        exact late)
    exact ⟨d, run', .poll next steps, present, finished⟩
  | leaving => exact (course.standing.isLeaving hrun phase number).finishes
  | finished => exact ⟨c, run, .none c, hrun, phase⟩
  | aborted => exact absurd phase going

/-- A run that is quiet has ended, or waits for a message before it is over, or waits for its
handler. -/
theorem waits_of_quiet (course : Course (idle limits queue handler window) l c)
    (hrun : c.runs[i]? = some run) (quiet : c.isQuietFor i = true) :
    run.phase = .finished ∨ run.phase = .aborted ∨
      (run.phase = .waiting ∧ c.isOver run = false) ∨
      ∃ m start finish, run.phase = .handling m start finish ∧ c.intake.now < finish := by
  have still : c.poll? i = none := by
    rw [isQuietFor, Bool.and_eq_true] at quiet
    exact Option.isNone_iff_eq_none.1 quiet.1
  cases phase : run.phase with
  | waiting =>
    refine .inr (.inr (.inl ⟨rfl, Bool.eq_false_iff.2 fun late => ?_⟩))
    rw [poll_of_over hrun phase late] at still
    cases still
  | handling m start finish =>
    refine .inr (.inr (.inr ⟨m, start, finish, rfl, Nat.lt_of_not_le fun due => ?_⟩))
    obtain ⟨s, -, next⟩ := course.holdsInHand.settles hrun phase due
    rw [next] at still
    cases still
  | leaving =>
    have number := (course.kept.each i run hrun).number
    have busy := (course.standing.isLeaving hrun phase number).not_quiet
    rw [quiet] at busy
    cases busy
  | finished => exact .inl rfl
  | aborted => exact .inr (.inl rfl)

end Over

end Consumer

end FlagAlerts
