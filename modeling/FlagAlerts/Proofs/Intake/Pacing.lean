import FlagAlerts.Proofs.Intake.Conservation
import FlagAlerts.Proofs.Intake.Pacer
import FlagAlerts.Proofs.Intake.Standing

/-!
# The pace of deliveries

However many workers and runs share the gate for the rate, and whenever they are cancelled, it is a
gate that paces, on a clock in milliseconds.
-/

namespace FlagAlerts.Intake

open Pacer (Mark)

/-- The gate for the rate. -/
def pacer (s : Intake) : Pacer where
  interval := s.limits.interval
  now := s.now * 1000000
  next := s.nextSlot
  isHeld := s.workers.any (·.phase.isResting)

/-- The wait that ends as a worker gets from one phase to another. -/
def ended (s t : Intake) (i : Nat) : List Mark :=
  match s.workers[i]?.map Worker.phase, t.workers[i]?.map Worker.phase with
  | some (.pacing ..), some (.sending _) => [⟨s.now * 1000000, s.now * 1000000⟩]
  | some (.resting _), some (.sending _) => [⟨s.nextSlot, s.now * 1000000⟩]
  | _, _ => []

/-- The wait that ends with an action, if one does. -/
def endedBy (s t : Intake) : IntakeAction → List Mark
  | .work i => s.ended t i
  | _ => []

/-- The courses of an intake, with the waits for turns that have ended. -/
inductive Paced (limits : Limits) (queue : BusQueue) : List Mark → Intake → Prop where
  | initial : Paced limits queue [] (.ofLimits limits queue)
  | step {marks : List Mark} {s t : Intake} (a : IntakeAction) (before : Paced limits queue marks s)
      (next : s.step? a = some t) : Paced limits queue (marks ++ s.endedBy t a) t

/-- Who of the workers has the turn. -/
def turns (s : Intake) : List Bool := s.workers.map (·.phase.isResting)

/-- What steps of a worker do to the gate for the rate. -/
inductive Turn (i : Nat) (s t : Intake) : List Mark → Prop where
  | apart (turns : t.turns = s.turns) (slot : t.nextSlot = s.nextSlot) : Turn i s t []
  | sleeps (here : i < s.turns.length) (free : true ∉ s.turns)
      (early : s.now * 1000000 < s.nextSlot) (turns : t.turns = s.turns.set i true)
      (slot : t.nextSlot = s.nextSlot) : Turn i s t []
  | goesOn (free : true ∉ s.turns) (due : s.nextSlot ≤ s.now * 1000000) (turns : t.turns = s.turns)
      (slot : t.nextSlot = s.now * 1000000 + s.limits.interval) :
      Turn i s t [⟨s.now * 1000000, s.now * 1000000⟩]
  | wakes (held : s.turns[i]? = some true) (due : ceilMs s.nextSlot ≤ s.now)
      (turns : t.turns = s.turns.set i false) (slot : t.nextSlot = s.nextSlot + s.limits.interval) :
      Turn i s t [⟨s.nextSlot, s.now * 1000000⟩]
  | givesUp (held : s.turns[i]? = some true) (turns : t.turns = s.turns.set i false)
      (slot : t.nextSlot = s.nextSlot) : Turn i s t []

/-- What is the same in two intakes when it comes to the rate, but for the turns and the slot. -/
structure SameClock (s t : Intake) : Prop where
  now : t.now = s.now
  limits : t.limits = s.limits

/-- What an action leaves alone that is neither a step of a worker nor the start of a run, and takes no
time. Workers may get a notice, and no more. -/
structure Aside (s t : Intake) : Prop where
  workers : ∀ {β : Type} (f : Worker → β), (∀ w place, w.phase = .listening place false →
    f { w with phase := .listening 0 true } = f w) → t.workers.map f = s.workers.map f
  runs : t.runs.length = s.runs.length
  slot : t.nextSlot = s.nextSlot
  clock : SameClock s t

/-! ## Steps that have nothing to do with the gate -/

section Frames

variable {s t : Intake} {i : Nat} {w v : Worker}

theorem handBack_rate (s : Intake) (ms : List BusMessage) :
    (s.handBack ms).nextSlot = s.nextSlot ∧ SameClock s (s.handBack ms) := by
  induction ms generalizing s with
  | nil => exact ⟨rfl, rfl, rfl⟩
  | cons m rest ih =>
    obtain ⟨slot, now, limits⟩ := ih (s.settle m false)
    exact ⟨slot, now, limits⟩

theorem sweep_rate (s : Intake) (r : Nat) :
    (s.sweep r).nextSlot = s.nextSlot ∧ SameClock s (s.sweep r) := by
  unfold sweep
  split
  next run _ =>
    split
    · obtain ⟨slot, now, limits⟩ := handBack_rate s run.channel
      exact ⟨slot, now, limits⟩
    · exact ⟨rfl, rfl, rfl⟩
  next => exact ⟨rfl, rfl, rfl⟩

theorem turns_set (workers : t.workers = s.workers.set i v) :
    t.turns = s.turns.set i v.phase.isResting := by
  rw [turns, workers, List.map_set, turns]

theorem turns_sweep (s : Intake) (r : Nat) : (s.sweep r).turns = s.turns := by
  rw [turns, (sweep_frame s r).1, turns]

theorem turns_setPhase (h : s.workers[i]? = some w) (phase : Phase) :
    (s.setPhase i phase).turns = s.turns.set i phase.isResting :=
  turns_set (workers_setPhase h phase)

theorem getElem?_turns (h : s.workers[i]? = some w) : s.turns[i]? = some w.phase.isResting := by
  simp [turns, h]

/-- Setting what is there already changes nothing. -/
theorem turns_set_self (h : s.workers[i]? = some w) {isResting : Bool}
    (same : w.phase.isResting = isResting) : s.turns.set i isResting = s.turns := by
  rw [← same]
  obtain ⟨bound, at_⟩ := List.getElem?_eq_some_iff.1 (getElem?_turns h)
  rw [← at_, List.set_getElem_self]

theorem giveNotice_aside (s : Intake) : Aside s s.giveNotice where
  workers f blind := map_giveNotice f blind s
  runs := by rw [(giveNotice_frame s).1]
  slot := by
    simp only [giveNotice]
    split <;> rfl
  clock := by
    simp only [giveNotice]
    split <;> exact ⟨rfl, rfl⟩

/-- Nobody has or loses a turn at a notice. -/
theorem Aside.turns (aside : Aside s t) : t.turns = s.turns := by
  apply aside.workers
  intro w place phase
  rw [phase]
  rfl

end Frames

/-! ## Steps of workers -/

section Steps

variable {s t : Intake} {i : Nat} {w v : Worker}

theorem Turn.of_ended {marks : List Mark} (turn : Turn i s t marks) (ends : s.ended t i = marks) :
    Turn i s t (s.ended t i) :=
  ends ▸ turn

/-- A worker that has nothing to do with the gate goes on to another phase. -/
theorem apart_of_set (h : s.workers[i]? = some w) (phase : w.phase.isResting = false)
    (workers : t.workers = s.workers.set i v) (stays : v.phase.isResting = false)
    (slot : t.nextSlot = s.nextSlot) : Turn i s t [] := by
  refine .apart ?_ slot
  rw [turns_set workers, stays, turns_set_self h phase]

/-- A worker leaves; `u` is the intake with what it had given back. -/
theorem leave_rate (u : Intake) (h : s.workers[i]? = some w) (workers : u.workers = s.workers)
    (slot : u.nextSlot = s.nextSlot) (clock : SameClock s u) :
    (u.leave i w.run).turns = s.turns.set i false ∧ (u.leave i w.run).nextSlot = s.nextSlot ∧
      SameClock s (u.leave i w.run) := by
  have h' : u.workers[i]? = some w := by rwa [workers]
  obtain ⟨slot', now, limits⟩ := sweep_rate (u.setPhase i .gone) w.run
  refine ⟨?_, slot'.trans slot, now.trans clock.now, limits.trans clock.limits⟩
  have gone : Phase.isResting .gone = false := rfl
  rw [leave, turns_sweep, turns_setPhase h', gone, turns, workers, turns]

/-- A worker that leaves is gone. -/
theorem phase_leave (u : Intake) (h : s.workers[i]? = some w) (workers : u.workers = s.workers) :
    (u.leave i w.run).workers[i]?.map Worker.phase = some .gone := by
  have h' : u.workers[i]? = some w := by rwa [workers]
  obtain ⟨bound, -⟩ := List.getElem?_eq_some_iff.1 h'
  simp [leave, (sweep_frame _ _).1, workers_setPhase h', bound]

/-- A worker leaves the gate, if it was there. -/
theorem turn_of_left (h : s.workers[i]? = some w) (turns : t.turns = s.turns.set i false)
    (slot : t.nextSlot = s.nextSlot) : Turn i s t [] := by
  cases rests : w.phase.isResting with
  | true => exact .givesUp ((getElem?_turns h).trans (congrArg some rests)) turns slot
  | false => exact .apart (turns.trans (turns_set_self h rests)) slot

theorem quit_turn (h : s.workers[i]? = some w) (next : s.quit i w = some t) :
    Turn i s t (s.ended t i) ∧ SameClock s t := by
  -- whoever leaves ends no wait
  have leaves (u : Intake) (workers : u.workers = s.workers) (slot : u.nextSlot = s.nextSlot)
      (clock : SameClock s u) : Turn i s (u.leave i w.run) (s.ended (u.leave i w.run) i) ∧
        SameClock s (u.leave i w.run) := by
    obtain ⟨turns, slot, clock⟩ := leave_rate u h workers slot clock
    have quiet : s.ended (u.leave i w.run) i = [] := by
      simp [ended, phase_leave u h workers]
    exact ⟨.of_ended (turn_of_left h turns slot) quiet, clock⟩
  unfold quit at next
  split at next
  case h_5 place phase =>
    cases next
    have gone := turns_setPhase (s := s.freeMessage) h .gone
    have aside := giveNotice_aside (s.freeMessage.setPhase i .gone)
    obtain ⟨slot', now', limits'⟩ := sweep_rate (s.freeMessage.setPhase i .gone).giveNotice w.run
    have quiet : s.ended ((s.freeMessage.setPhase i .gone).giveNotice.sweep w.run) i = [] := by
      simp [ended, h, phase]
    have turns := (turns_sweep _ w.run).trans (aside.turns.trans gone)
    exact ⟨.of_ended (turn_of_left h turns (slot'.trans aside.slot)) quiet,
      now'.trans aside.clock.now, limits'.trans aside.clock.limits⟩
  case h_9 | h_10 => cases next
  all_goals
    cases next
    exact leaves _ rfl rfl ⟨rfl, rfl⟩

theorem pull_turn (h : s.workers[i]? = some w) (phase : w.phase = .pulling) :
    Turn i s (s.pull i w) [] ∧ SameClock s (s.pull i w) := by
  have rests : w.phase.isResting = false := by rw [phase]; rfl
  simp only [pull, BusQueue.pull]
  by_cases failing : s.queue.failures > 0
  · simp only [failing, if_true]
    exact ⟨apart_of_set h rests rfl rfl rfl, rfl, rfl⟩
  · simp only [failing, if_false]
    cases s.queue.messages with
    | cons m rest => exact ⟨apart_of_set h rests rfl rfl rfl, rfl, rfl⟩
    | nil =>
      cases s.queue.staysOpen with
      | false =>
        obtain ⟨turns, slot, clock⟩ := leave_rate
          { s.freeMessage with health := { s.health with status := .unhealthy } } h rfl rfl ⟨rfl, rfl⟩
        exact ⟨turn_of_left h turns slot, clock⟩
      | true =>
        cases noticed : s.queue.hasNotice with
        | true => exact ⟨.apart rfl rfl, rfl, rfl⟩
        | false =>
          exact ⟨apart_of_set h rests (workers_setPhase h (.listening s.nextPlace false)) rfl rfl,
            rfl, rfl⟩

/-- Nobody has the turn. -/
theorem not_mem_turns_iff : true ∉ s.turns ↔ s.workers.all (!·.phase.isResting) = true := by
  simp [turns]

theorem proceed_turn {own : IntakeRun} (h : s.workers[i]? = some w)
    (next : s.proceed i w own = some t) : Turn i s t (s.ended t i) ∧ SameClock s t := by
  -- what goes on to a phase apart from the gate
  have onward {phase : Phase} (before : w.phase.isResting = false)
      (workers : t.workers = (s.setPhase i phase).workers) (after : phase.isResting = false)
      (slot : t.nextSlot = s.nextSlot) : Turn i s t [] :=
    apart_of_set h before (workers.trans (workers_setPhase h phase)) after slot
  obtain ⟨bound, -⟩ := List.getElem?_eq_some_iff.1 h
  have sends (u : Intake) (m : BusMessage) (workers : u.workers = (s.setPhase i (.sending m)).workers) :
      u.workers[i]?.map Worker.phase = some (.sending m) := by
    simp [workers, workers_setPhase h, bound]
  unfold proceed at next
  split at next
  case h_1 place phase =>
    rw [show s.ended t i = [] by simp [ended, h, phase]]
    split at next
    · cases next
      exact ⟨onward (by simp [phase, Phase.isResting]) rfl rfl rfl, rfl, rfl⟩
    · split at next <;> cases next
      exact ⟨onward (by simp [phase, Phase.isResting]) rfl rfl rfl, rfl, rfl⟩
  case h_2 phase =>
    rw [show s.ended t i = [] by simp [ended, h, phase]]
    cases next
    exact pull_turn h phase
  case h_3 place isNoticed phase =>
    rw [show s.ended t i = [] by simp [ended, h, phase]]
    split at next <;> cases next
    exact ⟨onward (by simp [phase, Phase.isResting]) rfl rfl rfl, rfl, rfl⟩
  case h_4 deadline phase =>
    rw [show s.ended t i = [] by simp [ended, h, phase]]
    split at next <;> cases next
    exact ⟨onward (by simp [phase, Phase.isResting]) rfl rfl rfl, rfl, rfl⟩
  case h_5 m place phase =>
    rw [show s.ended t i = [] by simp [ended, h, phase]]
    split at next
    · cases next
      exact ⟨onward (by simp [phase, Phase.isResting]) rfl rfl rfl, rfl, rfl⟩
    · split at next <;> cases next
      exact ⟨onward (by simp [phase, Phase.isResting]) rfl rfl rfl, rfl, rfl⟩
  case h_6 m place phase =>
    have rests : w.phase.isResting = false := by rw [phase]; rfl
    split at next
    next turn =>
      cases next
      have free := not_mem_turns_iff.2 (Bool.and_eq_true_iff.1 turn).1
      unfold takeTurn
      split
      next early =>
        have quiet : s.ended (s.setPhase i (.resting m)) i = [] := by
          simp [ended, workers_setPhase h, bound]
        have here : i < s.turns.length := by simpa [Intake.turns] using bound
        exact ⟨.of_ended (.sleeps here free early (turns_setPhase h _) rfl) quiet, rfl, rfl⟩
      next due =>
        have ends (u : Intake) (workers : u.workers = (s.setPhase i (.sending m)).workers) :
            s.ended u i = [⟨s.now * 1000000, s.now * 1000000⟩] := by
          simp [ended, h, phase, sends u m workers]
        have turns : (s.setPhase i (.sending m)).turns = s.turns :=
          (turns_setPhase h _).trans (turns_set_self h rests)
        exact ⟨.of_ended (.goesOn free (Nat.not_lt.1 due) turns rfl) (ends _ rfl), rfl, rfl⟩
    · split at next <;> cases next
      have quiet : s.ended (s.joinLine i fun p => .pacing m (some p)) i = [] := by
        simp [ended, joinLine, workers_setPhase h, bound]
      exact ⟨.of_ended (onward rests rfl rfl rfl) quiet, rfl, rfl⟩
  case h_7 m phase =>
    split at next <;> cases next
    next due =>
      have held : s.turns[i]? = some true := by rw [getElem?_turns h, phase]; rfl
      have ends (u : Intake) (workers : u.workers = (s.setPhase i (.sending m)).workers) :
          s.ended u i = [⟨s.nextSlot, s.now * 1000000⟩] := by
        simp [ended, h, phase, sends u m workers]
      exact ⟨.of_ended (.wakes held due (turns_setPhase h _) rfl) (ends _ rfl), rfl, rfl⟩
  case h_8 m phase =>
    rw [show s.ended t i = [] by simp [ended, h, phase]]
    split at next
    · cases next
      obtain ⟨turns, slot, clock⟩ := leave_rate (s.settle m false) h rfl rfl ⟨rfl, rfl⟩
      exact ⟨turn_of_left h turns slot, clock⟩
    · split at next <;> cases next
      exact ⟨onward (by simp [phase, Phase.isResting]) rfl rfl rfl, rfl, rfl⟩
  case h_9 => cases next

theorem work_turn (next : s.work? i = some t) : Turn i s t (s.ended t i) ∧ SameClock s t := by
  unfold work? at next
  cases h : s.workers[i]? with
  | none => simp [h] at next
  | some w =>
    cases hrun : s.runs[w.run]? with
    | none => simp [h, hrun] at next
    | some run =>
      simp only [h, hrun, Option.bind_eq_bind, Option.bind_some] at next
      rcases ite_eq_iff.1 next with ⟨-, leaves⟩ | ⟨-, stays⟩
      · exact quit_turn h leaves
      · exact proceed_turn h stays

end Steps

/-! ## Courses -/

section Courses

variable {s t : Intake} {i : Nat} {limits : Limits} {queue : BusQueue} {marks ended : List Mark}

/-- An action of the outside: new workers have no turn, and nobody else gets or loses one. -/
structure Still (s t : Intake) : Prop where
  turns : ∃ more, t.turns = s.turns ++ List.replicate more false
  slot : t.nextSlot = s.nextSlot
  clock : SameClock s t

theorem Still.of_same (turns : t.turns = s.turns) (slot : t.nextSlot = s.nextSlot)
    (clock : SameClock s t) : Still s t :=
  ⟨⟨0, by simp [turns]⟩, slot, clock⟩

theorem isHeld_iff : s.pacer.isHeld = true ↔ true ∈ s.turns := by
  simp [pacer, turns]

theorem Still.pacer_eq (still : Still s t) : t.pacer = s.pacer := by
  obtain ⟨more, turns⟩ := still.turns
  have held : t.pacer.isHeld = s.pacer.isHeld := by
    rw [Bool.eq_iff_iff, isHeld_iff, isHeld_iff, turns]
    simp
  have now := still.clock.now
  have limits := still.clock.limits
  have slot := still.slot
  simp only [pacer] at held ⊢
  rw [now, limits, slot, held]

theorem Aside.of_workers (workers : t.workers = s.workers) (runs : t.runs.length = s.runs.length)
    (slot : t.nextSlot = s.nextSlot) (clock : SameClock s t) : Aside s t :=
  ⟨fun _ _ => by rw [workers], runs, slot, clock⟩

/-- Whoever is no worker and starts no run leaves workers and gates alone. -/
theorem aside_of_step {a : IntakeAction} (next : s.step? a = some t) (outside : ∀ i, a ≠ .work i)
    (old : a ≠ .start) (timeless : ∀ ms, a ≠ .pass ms) : Aside s t := by
  cases a with
  | push attributes data =>
    cases next
    have noticed := giveNotice_aside { s with queue := s.queue.push attributes data }
    exact ⟨noticed.workers, noticed.runs, noticed.slot, noticed.clock.now, noticed.clock.limits⟩
  | failPull =>
    cases next
    exact .of_workers rfl rfl rfl ⟨rfl, rfl⟩
  | start => exact absurd rfl old
  | cancel r =>
    simp only [step?] at next
    split at next <;> cases next
    exact .of_workers rfl (List.length_modify ..) rfl ⟨rfl, rfl⟩
  | receive r =>
    obtain ⟨⟨m, u⟩, received, rfl⟩ := Option.map_eq_some_iff.1 next
    unfold receive? at received
    cases hrun : s.runs[r]? with
    | none => simp [hrun] at received
    | some run =>
      simp only [hrun, Option.bind_eq_bind, Option.bind_some] at received
      split at received
      · cases received
      · split at received <;> cases received
        exact .of_workers rfl (List.length_modify ..) rfl ⟨rfl, rfl⟩
  | settle id isAcked =>
    simp only [step?, settleHeld?] at next
    cases found : s.held.find? (·.id == id) with
    | none => simp [found] at next
    | some m =>
      obtain rfl := by simpa [found] using next
      exact .of_workers rfl rfl rfl ⟨rfl, rfl⟩
  | close r =>
    simp only [step?] at next
    split at next <;> cases next
    unfold close
    split
    next run _ =>
      obtain ⟨slot, now, limits⟩ := handBack_rate s run.channel
      obtain ⟨-, workers, runs⟩ := handBack_frame s run.channel
      exact .of_workers workers ((List.length_modify ..).trans (by rw [runs])) slot ⟨now, limits⟩
    next => exact .of_workers rfl rfl rfl ⟨rfl, rfl⟩
  | abandon r =>
    simp only [step?] at next
    split at next <;> cases next
    let u := s.setRun r fun run => { run with isClosed := true, isAbandoned := true }
    obtain ⟨slot, now, limits⟩ := sweep_rate u r
    obtain ⟨workers, orders, -⟩ := sweep_frame u r
    have runs : (u.sweep r).runs.length = u.runs.length := by
      simpa [Intake.orders] using congrArg List.length orders
    exact .of_workers workers (runs.trans (List.length_modify ..)) slot ⟨now, limits⟩
  | work i => exact absurd rfl (outside i)
  | pass ms => exact absurd rfl (timeless ms)

/-- Nothing but workers and time has to do with the gate. -/
theorem still_of_step {a : IntakeAction} (next : s.step? a = some t) (outside : ∀ i, a ≠ .work i)
    (timeless : ∀ ms, a ≠ .pass ms) : Still s t := by
  by_cases started : a = .start
  · subst started
    cases next
    exact ⟨⟨s.limits.workers, by simp [start, turns, Phase.isResting]⟩, rfl, rfl, rfl⟩
  · have aside := aside_of_step next outside started timeless
    exact .of_same aside.turns aside.slot aside.clock

theorem pacer_eq_of (clock : SameClock s t) {slot : Nat} {isHeld : Bool} (next : t.nextSlot = slot)
    (held : true ∈ t.turns ↔ isHeld = true) :
    t.pacer = { s.pacer with next := slot, isHeld := isHeld } := by
  have same : t.pacer.isHeld = isHeld := by
    rw [Bool.eq_iff_iff, isHeld_iff, held]
  have now := clock.now
  have limits := clock.limits
  simp only [pacer] at same ⊢
  rw [now, limits, next, same]

/-- Nobody has the turn after the only one who had it has left it. -/
theorem not_mem_set_false {turns : List Bool} (single : turns.count true ≤ 1)
    (held : turns[i]? = some true) : true ∉ turns.set i false := by
  obtain ⟨bound, at_⟩ := List.getElem?_eq_some_iff.1 held
  rw [← List.count_eq_zero, List.count_set bound, at_]
  simp only [beq_self_eq_true, if_true]
  have other : (false == true) = false := rfl
  rw [other]
  simp only [Bool.false_eq_true, if_false]
  omega

/-- A step of a worker is one of the gate, or has nothing to do with it. -/
theorem Turn.course (turn : Turn i s t ended) (clock : SameClock s t)
    (single : s.turns.count true ≤ 1)
    (course : Pacer.Course 1000000 limits.interval marks s.pacer) :
    t.turns.count true ≤ 1 ∧ Pacer.Course 1000000 limits.interval (marks ++ ended) t.pacer := by
  cases turn with
  | apart turns slot =>
    have same := (Still.of_same turns slot clock).pacer_eq
    rw [turns, same, List.append_nil]
    exact ⟨single, course⟩
  | sleeps here free early turns slot =>
    have held : true ∈ t.turns ↔ true = true := iff_of_true (turns ▸ List.mem_set here true) rfl
    have isFree : s.pacer.isHeld = false := Bool.eq_false_iff.2 (mt isHeld_iff.1 free)
    constructor
    · rw [turns, List.count_set here, List.count_eq_zero.2 free]
      simp
    · refine course.step .take trivial ?_
      rw [pacer_eq_of clock slot held]
      exact Pacer.Step.eq_some (.sleeps isFree early)
  | goesOn free due turns slot =>
    have held : true ∈ t.turns ↔ false = true := iff_of_false (turns ▸ free) Bool.false_ne_true
    have isFree : s.pacer.isHeld = false := Bool.eq_false_iff.2 (mt isHeld_iff.1 free)
    refine ⟨turns ▸ single, course.step .take trivial ?_⟩
    rw [pacer_eq_of clock slot held]
    exact isFree ▸ Pacer.Step.eq_some (.goesOn isFree due)
  | wakes has due turns slot =>
    have gone := not_mem_set_false single has
    have held : true ∈ t.turns ↔ false = true := iff_of_false (turns ▸ gone) Bool.false_ne_true
    have isHeld : s.pacer.isHeld = true := isHeld_iff.2 (List.mem_of_getElem? has)
    constructor
    · rw [turns, List.count_eq_zero.2 gone]
      exact Nat.zero_le 1
    · refine course.step .wake trivial ?_
      rw [pacer_eq_of clock slot held]
      have woken : Pacer.ceil s.pacer.next ≤ s.pacer.now := Nat.mul_le_mul_right _ due
      exact Pacer.Step.eq_some (.wakes isHeld woken)
  | givesUp has turns slot =>
    have gone := not_mem_set_false single has
    have held : true ∈ t.turns ↔ false = true := iff_of_false (turns ▸ gone) Bool.false_ne_true
    have isHeld : s.pacer.isHeld = true := isHeld_iff.2 (List.mem_of_getElem? has)
    constructor
    · rw [turns, List.count_eq_zero.2 gone]
      exact Nat.zero_le 1
    · refine course.step .drop trivial ?_
      rw [pacer_eq_of clock slot held]
      exact Pacer.Step.eq_some (.givesUp isHeld)

/-- Time goes by at the gate, as nobody sleeps beyond the slot. -/
theorem pass_course {ms : Nat} (next : s.pass? ms = some t)
    (course : Pacer.Course 1000000 limits.interval marks s.pacer) :
    Pacer.Course 1000000 limits.interval marks t.pacer := by
  unfold pass? at next
  split at next <;> cases next
  next inTime =>
    have wakes : s.pacer.isHeld = true → s.now + ms ≤ ceilMs s.nextSlot := by
      intro held
      obtain ⟨w, hw, rests⟩ := List.any_eq_true.1 held
      have waits : s.wakeTime? w.phase = some (ceilMs s.nextSlot) := by
        cases phase : w.phase <;> simp_all [Phase.isResting, wakeTime?]
      have listed : ceilMs s.nextSlot ∈ s.wakeTimes := List.mem_filterMap.2 ⟨w, hw, waits⟩
      simpa using List.all_eq_true.1 inTime _ listed
    have sum : s.pacer.now + ms * 1000000 = (s.now + ms) * 1000000 := (Nat.add_mul _ _ _).symm
    have passes := course.step (.pass (ms * 1000000)) (Nat.dvd_mul_left _ _)
      (Pacer.Step.eq_some (.passes fun held => by
        rw [sum]
        exact Nat.mul_le_mul_right _ (wakes held)))
    rw [sum, List.append_nil] at passes
    exact passes

/-- The gate for the rate is a gate that paces. -/
theorem Paced.course (paced : Paced limits queue marks s) :
    s.limits = limits ∧ s.turns.count true ≤ 1 ∧
      Pacer.Course 1000000 limits.interval marks s.pacer := by
  induction paced with
  | initial =>
    have start : (ofLimits limits queue).pacer =
        { interval := limits.interval, now := 0, next := 0 } := by
      simp [pacer, ofLimits]
    refine ⟨rfl, Nat.zero_le 1, ?_⟩
    rw [start]
    exact .start (Nat.dvd_zero _)
  | @step marks s t a before next ih =>
    obtain ⟨same, single, course⟩ := ih
    by_cases outside : (∀ i, a ≠ .work i) ∧ ∀ ms, a ≠ .pass ms
    · have still := still_of_step next outside.1 outside.2
      have none : s.endedBy t a = [] := by
        cases a with
        | work i => exact absurd rfl (outside.1 i)
        | _ => rfl
      obtain ⟨more, turns⟩ := still.turns
      refine ⟨still.clock.limits.trans same, ?_, ?_⟩
      · rw [turns, List.count_append, List.count_replicate]
        simpa using single
      · rw [none, List.append_nil, still.pacer_eq]
        exact course
    · cases a with
      | work i =>
        obtain ⟨turn, clock⟩ := work_turn next
        exact ⟨clock.limits.trans same, turn.course clock single course⟩
      | pass ms =>
        have onward := pass_course next course
        simp only [step?, pass?] at next
        split at next <;> cases next
        refine ⟨same, single, ?_⟩
        simpa [endedBy] using onward
      | _ => exact absurd ⟨by simp, by simp⟩ outside

end Courses

/-- However many workers of however many runs wait for their turns, and whenever their runs are
cancelled, the slots of these waits are an interval apart, and the waits end an interval apart up to a
millisecond. They end a whole interval apart on every course just if the interval is in whole
milliseconds, as the clock is; and on a finer clock just if there is no interval at all. A wait that is
given up leaves all later waits as they would have been just if it is given up before its slot, or the
slot is at a whole millisecond. -/
theorem waits_are_spaced_up_to_a_millisecond {c : PullerConfig} {limits : Limits}
    (accepted : Limits.ofConfig? c = .ok limits) :
    limits.interval = 1000000000 / c.maxMessagesPerSecond.toNat ∧
      (∀ queue marks s, Paced limits queue marks s →
        Pacer.Course 1000000 limits.interval marks s.pacer) ∧
      (∀ tick marks p, Pacer.Course tick limits.interval marks p →
        Pacer.AlmostSpaced limits.interval marks) ∧
      ((∀ marks p, Pacer.Course 1000000 limits.interval marks p →
        Pacer.Spaced limits.interval marks) ↔ 1000000 ∣ limits.interval) ∧
      ((∀ marks p, Pacer.Course 1 limits.interval marks p →
        Pacer.Spaced limits.interval marks) ↔ limits.interval = 0) ∧
      ∀ p ns q, Pacer.GivesUp p ns q →
        ((∀ rest, q.schedule rest = p.schedule rest) ↔ p.now + ns < p.next ∨ 1000000 ∣ p.next) := by
  obtain ⟨-, same⟩ := eq_of_accepted accepted
  refine ⟨by rw [same], ?_, ?_, Pacer.spaced_iff_dvd, Pacer.spaced_iff_eq_zero, ?_⟩
  · intro queue marks s paced
    exact paced.course.2.2
  · intro tick marks p course
    exact course.almostSpaced
  · intro p ns q gives
    exact Pacer.schedule_of_givesUp_iff gives

/-- Settings for three messages a second. -/
def threeASecond : PullerConfig where
  maxMessagesPerSecond := 3

/-- The limits of these settings. -/
def threeASecondLimits : Limits := ⟨1, 1000, 104857600, 333333333⟩

/-- Three messages a second are no whole number of milliseconds apart, so some of them come too
soon. -/
theorem three_a_second_are_not_spaced :
    Limits.ofConfig? threeASecond = .ok threeASecondLimits ∧
      ¬∀ marks p, Pacer.Course 1000000 333333333 marks p → Pacer.Spaced 333333333 marks := by
  have accepted : Limits.ofConfig? threeASecond = .ok threeASecondLimits := by decide +kernel
  refine ⟨accepted, ?_⟩
  intro spaced
  have even := (waits_are_spaced_up_to_a_millisecond accepted).2.2.2.1.1 spaced
  exact absurd even (by decide)

/-- The waits that end in the course of some actions, and the intake after them. -/
def paces? (s : Intake) : List IntakeAction → Option (List Mark × Intake)
  | [] => some ([], s)
  | a :: rest => do
    let t ← s.step? a
    let (marks, u) ← paces? t rest
    return (s.endedBy t a ++ marks, u)

theorem Paced.follow {limits : Limits} {queue : BusQueue} {marks more : List Mark} {s t : Intake}
    {actions : List IntakeAction} (paced : Paced limits queue marks s)
    (followed : s.paces? actions = some (more, t)) : Paced limits queue (marks ++ more) t := by
  induction actions generalizing marks more s with
  | nil =>
    cases followed
    rwa [List.append_nil]
  | cons a rest ih =>
    cases next : s.step? a with
    | none => simp [paces?, next] at followed
    | some u =>
      cases later : u.paces? rest with
      | none => simp [paces?, next, later] at followed
      | some outcome =>
        obtain ⟨marks', t'⟩ := outcome
        simp only [paces?, next, later, Option.bind_eq_bind, Option.bind_some, Option.pure_def,
          Option.some.injEq, Prod.mk.injEq] at followed
        obtain ⟨rfl, rfl⟩ := followed
        rw [← List.append_assoc]
        exact ih (paced.step a next) later

/-- A worker delivers three messages that are there from the start, each as soon as it can. -/
def threeDeliveries : List IntakeAction :=
  [.push [] [], .push [] [], .push [] [], .start] ++
    [.work 0, .work 0, .work 0, .work 0, .work 0, .receive 0] ++
    [.work 0, .work 0, .work 0, .work 0, .pass 334, .work 0, .work 0, .receive 0] ++
    [.work 0, .work 0, .work 0, .work 0, .pass 333, .work 0, .work 0, .receive 0]

/-- The third of the three messages comes 333 ms after the second. -/
theorem third_message_comes_too_soon :
    ∃ s, Paced threeASecondLimits {}
      [⟨0, 0⟩, ⟨333333333, 334000000⟩, ⟨666666666, 667000000⟩] s ∧
      ¬Pacer.Spaced 333333333 [⟨0, 0⟩, ⟨333333333, 334000000⟩, ⟨666666666, 667000000⟩] := by
  have outcome : ((ofLimits threeASecondLimits {}).paces? threeDeliveries).map (·.1) =
      some [⟨0, 0⟩, ⟨333333333, 334000000⟩, ⟨666666666, 667000000⟩] := by
    decide +kernel
  obtain ⟨⟨marks, s⟩, followed, rfl⟩ := Option.map_eq_some_iff.1 outcome
  refine ⟨s, Paced.initial.follow followed, ?_⟩
  intro spaced
  simp [Pacer.Spaced] at spaced

end FlagAlerts.Intake
