import FlagAlerts.Proofs.Consumer.Standing
import FlagAlerts.Proofs.Intake.Conservation
import Mathlib.Data.Multiset.OrderedMonoid

/-!
# What the receivers hold

The messages with the receiver are those that the runs of the consumer handle, one each, and no move
of a consumer loses a permit: what is free and what is held are together what there was at first.
-/

namespace FlagAlerts

namespace Intake

/-- The names of the messages with the receiver. -/
def heldNames (s : Intake) : Multiset String := Multiset.ofList (s.held.map (·.id))

section Held

variable {s t : Intake} {i r : Nat} {w : Worker} {own : IntakeRun}

theorem sweep_held (s : Intake) (r : Nat) : (s.sweep r).held = s.held := by
  unfold sweep
  split
  next run h =>
    split
    · exact (handBack_limits s run.channel).2
    · rfl
  next => rfl

theorem close_held (s : Intake) (r : Nat) : (s.close r).held = s.held := by
  unfold close
  split
  next run h => exact (handBack_limits s run.channel).2
  next => rfl

theorem giveNotice_held (s : Intake) : s.giveNotice.held = s.held := by
  simp only [giveNotice]
  split <;> rfl

theorem quit_held (next : s.quit i w = some t) : t.held = s.held := by
  unfold quit at next
  split at next
  case h_5 place phase =>
    cases next
    exact (sweep_held _ _).trans (giveNotice_held _)
  case h_9 | h_10 => cases next
  all_goals
    cases next
    exact sweep_held _ _

theorem pull_held (s : Intake) (i : Nat) (w : Worker) : (s.pull i w).held = s.held := by
  unfold pull
  split
  · rfl
  · rfl
  · exact sweep_held _ _
  · split <;> rfl

theorem proceed_held (next : s.proceed i w own = some t) : t.held = s.held := by
  unfold proceed at next
  split at next
  case h_2 phase =>
    cases next
    exact pull_held s i w
  case h_6 m place phase =>
    split at next
    · cases next
      unfold takeTurn
      split <;> rfl
    · split at next <;> cases next
      rfl
  case h_8 m phase =>
    split at next
    · cases next
      exact sweep_held _ _
    · split at next <;> cases next
      rfl
  case h_9 => cases next
  case h_1 place phase | h_5 m place phase =>
    split at next
    · cases next
      rfl
    · split at next <;> cases next
      rfl
  all_goals
    split at next <;> cases next
    rfl

/-- The workers do not touch what the receiver has. -/
theorem work_held (next : s.work? i = some t) : t.held = s.held := by
  simp only [work?, Option.bind_eq_bind, Option.bind_eq_some_iff] at next
  obtain ⟨w, -, own, -, next⟩ := next
  rcases ite_eq_iff.1 next with ⟨-, leaves⟩ | ⟨-, stays⟩
  · exact quit_held leaves
  · exact proceed_held stays

/-- The receiver settles a message that it has, and it has no other message less. -/
theorem settleHeld_names {id : String} {isAcked : Bool} (h : s.settleHeld? id isAcked = some t) :
    s.heldNames = {id} + t.heldNames := by
  unfold settleHeld? at h
  cases found : s.held.find? (·.id == id) with
  | none => simp [found] at h
  | some m =>
    obtain rfl := by simpa [found] using h
    obtain ⟨named, before, after, split, others⟩ := List.find?_eq_some_iff_append.1 found
    have left : s.held.eraseP (·.id == id) = before ++ after := by
      rw [split, List.eraseP_append_right _ (by simpa using others)]
      simp [named]
    show Multiset.ofList (s.held.map _) = {id} + Multiset.ofList ((s.held.eraseP _).map _)
    rw [left, split, ← beq_iff_eq.1 named]
    simp only [List.map_append, List.map_cons, ← Multiset.coe_add, ← Multiset.cons_coe,
      ← Multiset.singleton_add]
    abel

/-- The receiver can settle a message that it has. -/
theorem settleHeld_of_mem {id : String} (isAcked : Bool) (h : id ∈ s.heldNames) :
    ∃ t, s.settleHeld? id isAcked = some t := by
  obtain ⟨m, member, named⟩ := List.mem_map.1 (Multiset.mem_coe.1 h)
  have present : (s.held.find? (·.id == id)).isSome = true :=
    List.find?_isSome.2 ⟨m, member, beq_iff_eq.2 named⟩
  obtain ⟨first, found⟩ := Option.isSome_iff_exists.1 present
  exact ⟨_, by rw [settleHeld?, found]; rfl⟩

end Held

end Intake

namespace Consumer

open Intake

/-- The name of the message that a run handles. -/
def names (run : ConsumerRun) : Multiset String := Multiset.ofList (run.phase.inHand.map (·.id))

/-- The messages with the receiver are those that runs handle. -/
def HoldsInHand (c : Consumer) : Prop := c.intake.heldNames = (c.runs.map names).sum

/-- What a move does to the permits and to what the receiver has. -/
structure Careful (c d : Consumer) : Prop where
  keeps : Keeps c.intake d.intake
  holds : c.HoldsInHand → d.HoldsInHand

section Moves

variable {queued : List BusMessage} {l : Ledger} {c d : Consumer} {mv : Move} {i : Nat}
  {run run' : ConsumerRun}

/-- A run goes on, and the receiver has its message as long as the run handles it. -/
theorem HoldsInHand.of_set (holds : c.HoldsInHand) (hrun : c.runs[i]? = some run)
    (runs : d.runs = c.runs.set i run')
    (moved : d.intake.heldNames + names run = c.intake.heldNames + names run') :
    d.HoldsInHand := by
  have sums := sum_set names hrun run'
  apply add_right_cancel (b := names run)
  rw [moved, runs, sums, holds]

/-- The receiver has what it had, and every run handles what it did. -/
theorem HoldsInHand.of_same (holds : c.HoldsInHand) (held : d.intake.held = c.intake.held)
    (runs : d.runs.map names = c.runs.map names) : d.HoldsInHand := by
  rw [HoldsInHand, heldNames, held, runs]
  exact holds

/-- A run that is cut off hands back the message that it handles. -/
theorem cutOff_careful {done : List (Nat × Effect)} (hrun : c.runs[i]? = some run)
    (h : c.cutOff? i run done = some d) :
    Conserves [] c.intake d.intake ∧ (c.HoldsInHand → d.HoldsInHand) := by
  obtain ⟨s, conserved, hands, rfl⟩ : ∃ s : Intake, Conserves [] c.intake s ∧
      s.heldNames + names run = c.intake.heldNames ∧
      d = { c.setRun i { run with phase := .aborted, effects := run.effects ++ done } with
        intake := s.abandon run.run } := by
    unfold cutOff? at h
    cases phase : run.phase with
    | waiting | leaving =>
      rw [phase] at h
      exact ⟨c.intake, .refl _, by simp [names, phase, ConsumerPhase.inHand],
        (Option.some.inj h).symm⟩
    | handling m start finish =>
      rw [phase] at h
      obtain ⟨s, settled, next⟩ := Option.bind_eq_some_iff.1 h
      refine ⟨s, settleHeld_conserves settled, ?_, (Option.some.inj next).symm⟩
      rw [settleHeld_names settled, add_comm]
      simp [names, phase, ConsumerPhase.inHand]
    | finished | aborted => simp [phase] at h
  have abandoned : (s.abandon run.run).heldNames = s.heldNames := by
    rw [heldNames, abandon, sweep_held]
    rfl
  refine ⟨conserved.trans (abandon_conserves s run.run), fun holds => ?_⟩
  refine holds.of_set hrun rfl ?_
  show (s.abandon run.run).heldNames + names run = _
  rw [abandoned, hands]
  simp [names, ConsumerPhase.inHand]

/-- A run that takes a message handles it. -/
theorem receive_careful {m : BusMessage} {s : Intake} {start finish : Nat}
    (hrun : c.runs[i]? = some run) (waits : run.phase = .waiting)
    (received : c.intake.receive? run.run = some (m, s)) (holds : c.HoldsInHand) :
    HoldsInHand { c.setRun i { run with phase := .handling m start finish } with intake := s } := by
  obtain ⟨own, rest, -, -, -, rfl⟩ := receive_eq_some received
  refine holds.of_set hrun rfl ?_
  simp [heldNames, Intake.setRun, names, waits, ConsumerPhase.inHand, ← Multiset.coe_add]

/-- A step of a run loses nothing. -/
theorem poll_careful (h : c.poll? i = some d) :
    Conserves [] c.intake d.intake ∧ (c.HoldsInHand → d.HoldsInHand) := by
  obtain ⟨run, hrun, polled⟩ := poll_eq_some h
  obtain ⟨bound, -⟩ := List.getElem?_eq_some_iff.1 hrun
  cases polled with
  | left waits ends next =>
    subst next
    have told : Conserves [] c.intake (c.intake.cancel run.run) := setRun_conserves _ _ fun _ => rfl
    refine ⟨told.trans (close_conserves _ run.run), fun holds => holds.of_set hrun rfl ?_⟩
    simp [Consumer.leave, heldNames, close_held, Intake.cancel, Intake.setRun, names, waits,
      ConsumerPhase.inHand]
  | took waits goesOn received next =>
    subst next
    exact ⟨receive_conserves received, receive_careful hrun waits received⟩
  | broke waits goesOn received next =>
    obtain ⟨conserved, hands⟩ := cutOff_careful (List.getElem?_set_self bound) next
    exact ⟨(receive_conserves received).trans conserved,
      fun holds => hands (receive_careful hrun waits received holds)⟩
  | settled handles held next =>
    subst next
    refine ⟨settleHeld_conserves held, fun holds => holds.of_set hrun rfl ?_⟩
    simp [settleHeld_names held, names, handles, ConsumerPhase.inHand, add_comm]
  | finished leaves deserted next =>
    subst next
    refine ⟨.refl _, fun holds => holds.of_set hrun rfl ?_⟩
    simp [setRun, names, leaves, ConsumerPhase.inHand]

/-- A run can settle the message that it is done with. -/
theorem HoldsInHand.settles {m : BusMessage} {start finish : Nat} (holds : c.HoldsInHand)
    (hrun : c.runs[i]? = some run) (handles : run.phase = .handling m start finish)
    (due : finish ≤ c.intake.now) :
    ∃ s, c.intake.settleHeld? m.id (c.handler.handle m).result.shouldAck = some s ∧
      c.poll? i = some { c.setRun i { run with
          phase := .waiting
          summary := run.summary.add (c.handler.handle m).result
          effects := run.effects ++ (c.handler.handle m).actsFrom start } with
        intake := s } := by
  have own : names run ≤ c.intake.heldNames := by
    rw [holds]
    exact List.le_sum_of_mem (List.mem_map_of_mem (List.mem_of_getElem? hrun))
  have mine : m.id ∈ c.intake.heldNames :=
    Multiset.mem_of_le own (by simp [names, handles, ConsumerPhase.inHand])
  obtain ⟨s, held⟩ := settleHeld_of_mem (c.handler.handle m).result.shouldAck mine
  exact ⟨s, held, by simp [poll?, settle?, hrun, handles, due, held]⟩

/-- Every move is careful. -/
theorem move_careful (h : c.move? mv = some d) : Careful c d := by
  have idle {d : Consumer} (books : Conserves [] c.intake d.intake)
      (held : d.intake.held = c.intake.held) (runs : d.runs = c.runs) : Careful c d :=
    ⟨books.keeps, fun holds => holds.of_same held (by rw [runs])⟩
  cases mv with
  | rehandle handler =>
    cases h
    exact idle (.refl _) rfl rfl
  | lag ms | turn failures staysOpen =>
    cases h
    exact idle (.of_books rfl rfl rfl) rfl rfl
  | overrun worker =>
    obtain ⟨w, own, t, hw, hown, next, rfl⟩ := overrun_eq_some h
    obtain ⟨pulled, kept⟩ := proceed_conserves hw hown next
    exact ⟨kept.keeps, fun holds => holds.of_same (proceed_held next) rfl⟩
  | act a =>
    cases a with
    | push attributes data =>
      cases h
      exact ⟨push_keeps c.intake attributes data,
        fun holds => holds.of_same (giveNotice_held _) rfl⟩
    | failPull =>
      cases h
      exact idle (.of_books rfl rfl rfl) rfl rfl
    | start =>
      cases h
      refine ⟨(start_conserves c.intake).keeps, fun holds => ?_⟩
      rw [HoldsInHand] at holds ⊢
      simpa [Consumer.start, Intake.start, heldNames, names, ConsumerPhase.inHand] using holds
    | cancel r =>
      cases h
      refine ⟨(Conserves.refl c.intake).keeps, fun holds => holds.of_same rfl ?_⟩
      apply List.ext_getElem?
      intro j
      simp only [cancel, List.getElem?_map, List.getElem?_modify, Option.map_eq_map,
        Option.map_map]
      refine Option.map_congr fun run _ => ?_
      simp only [Function.comp_apply]
      split <;> rfl
    | abort r =>
      obtain ⟨run, done, hrun, next⟩ := abort_eq_some h
      obtain ⟨conserved, hands⟩ := cutOff_careful hrun next
      exact ⟨conserved.keeps, hands⟩
    | poll r =>
      obtain ⟨conserved, hands⟩ := poll_careful h
      exact ⟨conserved.keeps, hands⟩
    | work worker =>
      obtain ⟨t, next, rfl⟩ := Option.map_eq_some_iff.1 h
      obtain ⟨pulled, kept⟩ := work_conserves next
      exact ⟨kept.keeps, fun holds => holds.of_same (work_held next) rfl⟩
    | pass ms =>
      obtain rfl := pass_eq_some h
      exact idle (.of_books rfl rfl rfl) rfl rfl

end Moves

section Courses

variable {limits : Limits} {queue : BusQueue} {handler : Handler} {window : Nat} {l : Ledger}
  {c : Consumer}

/-- On every course the messages with the receiver are those that runs handle. -/
theorem Course.holdsInHand (course : Course (idle limits queue handler window) l c) :
    c.HoldsInHand := by
  induction course with
  | initial => rfl
  | move mv _ next ih => exact (move_careful next).holds ih

/-- On every course the byte permits that are free and those that are held are all there are. -/
theorem Course.bytes (course : Course (idle limits queue handler window) l c) :
    c.intake.limits = limits ∧ c.intake.freeBytes + c.intake.heldBytePermits = limits.bytes := by
  induction course with
  | initial => exact ⟨rfl, by simp [idle, ofLimits, heldBytePermits, weighed, gather]⟩
  | move mv _ next ih =>
    obtain ⟨same, books⟩ := (move_careful next).keeps
    have bytes : ∀ s : Intake, s.books.2.1 = s.freeBytes + s.heldBytePermits := fun s => by
      rw [← holdings_bytes]
      rfl
    have kept := congrArg (·.2.1) books
    simp only [bytes, BusMessage.names, Prod.snd_add, Prod.fst_add, add_zero] at kept
    exact ⟨same.trans ih.1, kept.trans ih.2⟩

end Courses

end Consumer

end FlagAlerts
