import FlagAlerts.Proofs.Consumer.Ending
import FlagAlerts.Proofs.Consumer.Outcome
import FlagAlerts.Proofs.Intake.Permits

/-!
# Runs that are cut off

A run that is cut off does not tell its workers to leave. Nothing is left of it once they have left,
and they do leave if it had told them before. Otherwise a worker that waits for a permit or for a
message goes on waiting, and the messages in the channel are not settled as long as it does.
-/

namespace FlagAlerts.Consumer

open Intake Ledger

/-- No worker of a run can take a step. -/
def isAtRest (c : Consumer) (i : Nat) : Bool :=
  (List.range c.intake.workers.length).all fun j =>
    c.intake.workers[j]?.all (·.run != i) || (c.intake.work? j).isNone

/-- Nothing is left of a run: every message that it pulled is settled once, none of its workers has a
permit or asks for one, and it pulls and settles nothing more, whatever happens. -/
structure LeavesNothing (l : Ledger) (c : Consumer) (i : Nat) : Prop where
  settled : Balanced (ofRun i l.pulled) (ofRun i l.handled) (ofRun i l.settled) 0
  permits : ∀ w ∈ c.intake.workers, w.run = i →
    w.phase.messagePermits = 0 ∧ w.phase.weighed = 0 ∧ w.phase.askingPlace? = none
  forGood : ∀ moves k d, follow? l c moves = some (k, d) → AgreeOn l k i

/-- A run was cut off after it had told its workers to leave, or before. -/
structure IsCutOff (c : Consumer) (i : Nat) (wasTold : Bool) : Prop where
  run : ∃ run, c.runs[i]? = some run ∧ run.phase = .aborted
  orders : c.intake.orders[i]? = some ⟨[], true, wasTold, true⟩

section Rest

variable {s : Intake} {c : Consumer} {i j : Nat} {w : Worker} {own : IntakeRun}

theorem isAtRest_iff :
    c.isAtRest i = true ↔
      ∀ j w, c.intake.workers[j]? = some w → w.run = i → c.intake.work? j = none := by
  simp only [isAtRest, List.all_eq_true, List.mem_range, Bool.or_eq_true, Option.isNone_iff_eq_none]
  constructor
  · intro rest j w hw same
    obtain ⟨bound, -⟩ := List.getElem?_eq_some_iff.1 hw
    rcases rest j bound with other | stuck
    · simp [hw, same] at other
    · exact stuck
  · intro rest j bound
    have hw : c.intake.workers[j]? = some c.intake.workers[j] := List.getElem?_eq_getElem bound
    by_cases same : c.intake.workers[j].run = i
    · exact .inr (rest j _ hw same)
    · exact .inl (by simp [hw, same])

/-- A worker that was told to leave can do so from every phase, once its channel is closed. -/
theorem gone_of_told (hw : s.workers[j]? = some w) (hown : s.runs[w.run]? = some own)
    (closed : own.isClosed = true) (told : own.isCancelled = true) (stuck : s.work? j = none) :
    w.phase = .gone := by
  unfold work? at stuck
  simp only [hw, hown, told, Option.bind_eq_bind, Option.bind_some, Bool.true_and] at stuck
  cases phase : w.phase with
  | gone => rfl
  | sending m => simp [phase, Intake.proceed, closed] at stuck
  | listening place isNoticed => cases isNoticed <;> simp [phase, quit] at stuck
  | _ => simp [phase, quit] at stuck

/-- A worker that neither has a permit nor stands in line for one can take a step, or has left. -/
theorem gone_of_free (hw : s.workers[j]? = some w) (hown : s.runs[w.run]? = some own)
    (free : w.phase.messagePermits = 0) (place : w.phase.askingPlace? = none)
    (stuck : s.work? j = none) : w.phase = .gone := by
  cases phase : w.phase with
  | gone => rfl
  | asking joined =>
    obtain rfl : joined = none := by simpa [phase, Phase.askingPlace?] using place
    unfold work? at stuck
    simp only [hw, hown, phase, Option.bind_eq_bind, Option.bind_some, quit, Intake.proceed] at stuck
    split at stuck
    · cases stuck
    · split at stuck <;> simp at stuck
  | _ => simp [phase, Phase.messagePermits] at free

end Rest

section Courses

variable {limits : Limits} {queue : BusQueue} {handler : Handler} {window i : Nat} {l k : Ledger}
  {c d e : Consumer} {run : ConsumerRun} {wasTold : Bool}

theorem IsCutOff.own (cut : IsCutOff c i wasTold) :
    ∃ own, c.intake.runs[i]? = some own ∧ own.isClosed = true ∧ own.isCancelled = wasTold ∧
      own.isAbandoned = true := by
  have told := cut.orders
  rw [getElem?_orders] at told
  obtain ⟨own, hown, same⟩ := Option.map_eq_some_iff.1 told
  simp only [IntakeRun.orders, IntakeRun.mk.injEq, true_and] at same
  exact ⟨own, hown, same⟩

/-- Nothing is left of a run that was cut off and whose workers have left. -/
theorem leavesNothing_of_deserted (course : Course (idle limits queue handler window) l c)
    (cut : IsCutOff c i wasTold) (deserted : c.intake.isDeserted i = true) :
    LeavesNothing l c i := by
  obtain ⟨run, hrun, aborted⟩ := cut.run
  obtain ⟨own, hown, closed, -, abandoned⟩ := cut.own
  have empty : own.channel = [] := course.standing.swept i own hown abandoned deserted
  have isOver : IsOver c i run :=
    ⟨hrun, .inr (.inr aborted), deserted, own, hown, closed, empty⟩
  have balanced := (course.kept.each i run hrun).balanced
  rw [isOver.content, aborted] at balanced
  exact {
    settled := balanced
    permits := by
      intro w hw same
      rw [isDeserted_iff.1 deserted w hw same]
      exact ⟨rfl, rfl, rfl⟩
    forGood := fun moves k d h => (isOver.follow course.kept h).1 }

/-- At rest, nothing is left of a run that was cut off exactly if its workers have left. -/
theorem leavesNothing_iff (course : Course (idle limits queue handler window) l c)
    (cut : IsCutOff c i wasTold) (rest : c.isAtRest i = true) :
    LeavesNothing l c i ↔ c.intake.isDeserted i = true := by
  refine ⟨fun nothing => isDeserted_iff.2 fun w hw same => ?_, leavesNothing_of_deserted course cut⟩
  obtain ⟨j, hj⟩ := List.mem_iff_getElem?.1 hw
  obtain ⟨free, -, place⟩ := nothing.permits w hw same
  obtain ⟨own, hown, -⟩ := cut.own
  exact gone_of_free hj (same ▸ hown) free place (isAtRest_iff.1 rest j w hj same)

/-- At rest, the workers of a run that had told them have left. -/
theorem deserted_of_told (cut : IsCutOff c i true) (rest : c.isAtRest i = true) :
    c.intake.isDeserted i = true := by
  refine isDeserted_iff.2 fun w hw same => ?_
  obtain ⟨j, hj⟩ := List.mem_iff_getElem?.1 hw
  obtain ⟨own, hown, closed, told, -⟩ := cut.own
  exact gone_of_told hj (same ▸ hown) closed told (isAtRest_iff.1 rest j w hj same)

/-! ### From the cut on -/

theorem orders_cutOff {done : List (Nat × Effect)} (h : c.cutOff? i run done = some d) :
    d.intake.orders = c.intake.orders.modify run.run fun o =>
      { o with channel := [], isClosed := true, isAbandoned := true } := by
  obtain ⟨s, -, runs, -, -, rfl⟩ := cutOff_eq_some h
  have same : s.orders = c.intake.orders := by rw [Intake.orders, runs, Intake.orders]
  rw [← same]
  exact orders_abandon s run.run

/-- A run that is cut off has told its workers to leave exactly if it was leaving itself. -/
theorem Standing.isCutOff (st : Standing c) (kept : Kept queue.messages l c)
    (hrun : c.runs[i]? = some run) (h : c.abort? i = some d) :
    IsCutOff d i (run.phase == .leaving) := by
  obtain ⟨run', done, hrun', cut⟩ := abort_eq_some h
  obtain rfl : run = run' := Option.some.inj (hrun.symm.trans hrun')
  obtain ⟨bound, -⟩ := List.getElem?_eq_some_iff.1 hrun
  have number := (kept.each i run hrun).number
  obtain ⟨live, new⟩ := cutOff_phase cut
  obtain ⟨o, told, accords⟩ := st.told i run hrun
  have orders := orders_cutOff cut
  have after : d.intake.orders[i]? =
      some { o with channel := [], isClosed := true, isAbandoned := true } := by
    rw [orders, number, List.getElem?_modify_eq, told]
    rfl
  obtain ⟨s, -, -, -, -, rfl⟩ := cutOff_eq_some cut
  refine ⟨⟨_, List.getElem?_set_self bound, rfl⟩, after.trans ?_⟩
  cases phase : run.phase with
  | waiting | handling | leaving =>
    rw [phase] at accords
    rw [show o = _ from accords]
    rfl
  | finished | aborted => simp [phase] at live new

/-- A run that is cut off stays so, and its workers are told nothing, while others move. -/
theorem IsCutOff.of_same (cut : IsCutOff c i wasTold) (runs : d.runs[i]? = c.runs[i]?)
    (orders : d.intake.orders[i]? = c.intake.orders[i]?) : IsCutOff d i wasTold :=
  ⟨by rw [runs]; exact cut.run, by rw [orders]; exact cut.orders⟩

/-- A step of a run tells no other run anything. -/
theorem Polled.orders_of_other {r : Nat} (h : Polled c r run d) (number : run.run = r)
    (other : r ≠ i) : d.intake.orders[i]? = c.intake.orders[i]? := by
  subst number
  cases h with
  | left waits ends next =>
    subst next
    show ((c.intake.cancel run.run).close run.run).orders[i]? = _
    rw [orders_close, orders_cancel, List.getElem?_modify_ne _ _ other,
      List.getElem?_modify_ne _ _ other]
  | took waits goesOn received next =>
    obtain ⟨own, rest, -, -, -, rfl⟩ := receive_eq_some received
    subst next
    exact congrArg (·[i]?) (orders_setChannel _ _ fun _ => rest)
  | broke waits goesOn received next =>
    obtain ⟨own, rest, -, -, -, rfl⟩ := receive_eq_some received
    rw [orders_cutOff next, List.getElem?_modify_ne _ _ other]
    exact congrArg (·[i]?) (orders_setChannel _ _ fun _ => rest)
  | settled handles held next =>
    obtain ⟨-, runs, -, -⟩ := settleHeld_frame held
    subst next
    exact congrArg (fun runs => (runs.map IntakeRun.orders)[i]?) runs
  | finished leaves deserted next =>
    subst next
    rfl

/-- A run that is cut off stays so, and its workers are told nothing any more. -/
theorem IsCutOff.move {mv : Move} (cut : IsCutOff c i wasTold) (kept : Kept queue.messages l c)
    (h : c.move? mv = some d) : IsCutOff d i wasTold := by
  obtain ⟨run, hrun, aborted⟩ := cut.run
  cases mv with
  | rehandle handler | lag ms | turn failures staysOpen =>
    cases h
    exact cut.of_same rfl rfl
  | overrun worker =>
    obtain ⟨w, own, t, hw, hown, next, rfl⟩ := overrun_eq_some h
    exact cut.of_same rfl (congrArg (·[i]?) (proceed_stepped hw next).orders)
  | act a =>
    cases a with
    | push attributes data =>
      cases h
      refine cut.of_same rfl ?_
      show ((c.intake.push attributes data).runs.map IntakeRun.orders)[i]? = _
      rw [Intake.push, (giveNotice_frame _).1, Intake.orders]
    | failPull =>
      cases h
      exact cut.of_same rfl rfl
    | start =>
      cases h
      obtain ⟨bound, -⟩ := List.getElem?_eq_some_iff.1 hrun
      refine cut.of_same (List.getElem?_append_left bound) ?_
      rw [getElem?_orders, getElem?_orders]
      have old : i < c.intake.runs.length := by rw [kept.runs]; exact bound
      exact congrArg _ (List.getElem?_append_left old)
    | cancel r =>
      cases h
      refine ⟨?_, cut.orders⟩
      rw [cancel, List.getElem?_modify, hrun]
      refine ⟨_, rfl, ?_⟩
      split <;> exact aborted
    | abort r =>
      obtain ⟨run', done, hrun', next⟩ := abort_eq_some h
      have other : r ≠ i := by
        rintro rfl
        obtain rfl : run = run' := Option.some.inj (hrun.symm.trans hrun')
        exact (cutOff_phase next).2 aborted
      have number := (kept.each r run' hrun').number
      have orders := orders_cutOff next
      obtain ⟨s, -, -, -, -, rfl⟩ := cutOff_eq_some next
      refine cut.of_same (List.getElem?_set_ne other) ?_
      rw [orders, number, List.getElem?_modify_ne _ _ other]
    | poll r =>
      obtain ⟨run', hrun', polled⟩ := poll_eq_some h
      have other : r ≠ i := by
        rintro rfl
        obtain rfl : run = run' := Option.some.inj (hrun.symm.trans hrun')
        cases polled <;> simp_all
      obtain ⟨-, after, runs⟩ := polled.frame kept hrun'
      refine cut.of_same (by rw [runs, List.getElem?_set_ne other]) ?_
      exact polled.orders_of_other (kept.each r run' hrun').number other
    | work worker =>
      obtain ⟨t, next, rfl⟩ := Option.map_eq_some_iff.1 h
      obtain ⟨w, hw, step⟩ := work_stepped next
      exact cut.of_same rfl (congrArg (·[i]?) step.orders)
    | pass ms =>
      obtain rfl := pass_eq_some h
      exact cut.of_same rfl rfl

theorem IsCutOff.follow {moves : List Move} (cut : IsCutOff c i wasTold)
    (kept : Kept queue.messages l c) (h : follow? l c moves = some (k, d)) :
    IsCutOff d i wasTold := by
  induction moves generalizing l c with
  | nil =>
    cases h
    exact cut
  | cons mv rest ih =>
    obtain ⟨next, moved, h⟩ := Option.bind_eq_some_iff.1 h
    exact ih (cut.move kept moved) (kept.move moved) h

/-- A run that is cut off leaves nothing exactly if all its workers leave. They do, as soon as they can
take steps, if the run was leaving when it was cut off; otherwise those that stay were never told.
What is not settled is with them or in the channel. -/
theorem aborted_run_leaves_nothing_iff {moves : List Move}
    (course : Course (idle limits queue handler window) l c) (hrun : c.runs[i]? = some run)
    (aborted : c.abort? i = some d)
    (later : follow? (l ++ c.entry (.act (.abort i)) d) d moves = some (k, e))
    (rest : e.isAtRest i = true) :
    (LeavesNothing k e i ↔ e.intake.isDeserted i = true) ∧
      (run.phase = .leaving → LeavesNothing k e i) ∧
      (¬ LeavesNothing k e i → e.intake.orders[i]? = some ⟨[], true, false, true⟩) ∧
      Balanced (ofRun i k.pulled) (ofRun i k.handled) (ofRun i k.settled) (e.intake.content i) := by
  have next : c.move? (.act (.abort i)) = some d := aborted
  have after := course.move _ next
  have cut := (course.standing.isCutOff course.kept hrun aborted).follow after.kept later
  have course' := after.follow later
  have iff := leavesNothing_iff course' cut rest
  refine ⟨iff, fun leaving => ?_, fun stays => ?_, ?_⟩
  · rw [leaving] at cut
    exact iff.2 (deserted_of_told cut rest)
  · cases told : run.phase == .leaving with
    | true =>
      rw [told] at cut
      exact absurd (iff.2 (deserted_of_told cut rest)) stays
    | false =>
      rw [told] at cut
      exact cut.orders
  · obtain ⟨run', hrun', gone⟩ := cut.run
    have balanced := (course'.kept.each i run' hrun').balanced
    have empty : (run'.phase.inHand : Multiset BusMessage) = 0 := by
      rw [gone]
      rfl
    rwa [empty, zero_add] at balanced

end Courses

/-- A run that is cancelled while its worker has a message, up to where it leaves. -/
def leavingMoves : List Move :=
  [.act .start, .act (.work 0), .act (.work 0), .act (.cancel 0), .act (.poll 0)]

/-- Cut off while it leaves, a run leaves nothing: its worker hands back the message that it has. -/
theorem run_cut_off_while_leaving :
    ∃ l c d k e, Course sample l c ∧ c.runs[0]?.map (·.phase) = some .leaving ∧
      c.abort? 0 = some d ∧ follow? (l ++ c.entry (.act (.abort 0)) d) d [.act (.work 0)] =
        some (k, e) ∧ e.intake.settlements = [⟨"first", false⟩] ∧ LeavesNothing k e 0 := by
  have outcome : (follow? {} sample leavingMoves).bind (fun x =>
      (x.2.abort? 0).bind fun d =>
        (follow? (x.1 ++ x.2.entry (.act (.abort 0)) d) d [.act (.work 0)]).map fun y =>
          (x.2.runs[0]?.map (·.phase), y.2.intake.settlements, y.2.isAtRest 0)) =
        some (some .leaving, [⟨"first", false⟩], true) := by decide +kernel
  obtain ⟨⟨l, c⟩, before, outcome⟩ := Option.bind_eq_some_iff.1 outcome
  obtain ⟨d, aborted, outcome⟩ := Option.bind_eq_some_iff.1 outcome
  obtain ⟨⟨k, e⟩, later, outcome⟩ := Option.map_eq_some_iff.1 outcome
  obtain ⟨phase, settlements, rest⟩ : c.runs[0]?.map (·.phase) = some .leaving ∧
      e.intake.settlements = [⟨"first", false⟩] ∧ e.isAtRest 0 = true := by
    simpa only [Prod.mk.injEq] using outcome
  obtain ⟨run, hrun, leaving⟩ := Option.map_eq_some_iff.1 phase
  have course : Course sample l c := Course.initial.follow before
  obtain ⟨-, told, -⟩ := aborted_run_leaves_nothing_iff course hrun aborted later rest
  exact ⟨l, c, d, k, e, course, phase, aborted, later, settlements, told leaving⟩

/-- A consumer with one worker and two messages, each of which takes five seconds; more may come. -/
def slow : Consumer :=
  idle ⟨1, 3, 1000, 0⟩
    { messages := [announcement "first", announcement "second"], staysOpen := true }
    { platform := World.platform {}, sender := Sender.failing [] 5000, timeout := 10000, newId := "" }
    60000

/-- The run handles the first message, the second one comes into the channel, the worker waits for
another one, and the run is cancelled a second before it is cut off. -/
def slowMoves : List Move :=
  [.act .start] ++ List.replicate 5 (.act (.work 0)) ++ [.act (.poll 0)] ++
    List.replicate 7 (.act (.work 0)) ++ [.act (.cancel 0), .act (.pass 1000)]

/-- Cut off while it handles a message, a run leaves another message that nobody settles and a worker
that nobody tells to leave, and both have permits. -/
theorem run_cut_off_while_handling :
    ∃ l c d, Course slow l c ∧ c.abort? 0 = some d ∧ d.isAtRest 0 = true ∧
      (ofRun 0 l.pulled).map (·.id) = ["first", "second"] ∧
      d.intake.settlements = [⟨"first", false⟩] ∧ d.intake.heldMessagePermits = 2 ∧
      ¬ LeavesNothing (l ++ c.entry (.act (.abort 0)) d) d 0 := by
  have outcome : (follow? {} slow slowMoves).bind (fun x =>
      (x.2.abort? 0).map fun d => (d.isAtRest 0, (ofRun 0 x.1.pulled).map (·.id),
        d.intake.settlements, d.intake.heldMessagePermits, d.intake.workers)) =
        some (true, ["first", "second"], [⟨"first", false⟩], 2,
          [⟨0, .listening 0 false, firstRetryDelay⟩]) := by decide +kernel
  obtain ⟨⟨l, c⟩, before, outcome⟩ := Option.bind_eq_some_iff.1 outcome
  obtain ⟨d, aborted, outcome⟩ := Option.map_eq_some_iff.1 outcome
  obtain ⟨rest, pulled, settlements, permits, workers⟩ : d.isAtRest 0 = true ∧
      (ofRun 0 l.pulled).map (·.id) = ["first", "second"] ∧
      d.intake.settlements = [⟨"first", false⟩] ∧ d.intake.heldMessagePermits = 2 ∧
      d.intake.workers = [⟨0, .listening 0 false, firstRetryDelay⟩] := by
    simpa only [Prod.mk.injEq] using outcome
  refine ⟨l, c, d, Course.initial.follow before, aborted, rest, pulled, settlements, permits, ?_⟩
  intro nothing
  obtain ⟨held, -⟩ := nothing.permits ⟨0, .listening 0 false, firstRetryDelay⟩ (by simp [workers]) rfl
  exact absurd held (by decide)

end FlagAlerts.Consumer
