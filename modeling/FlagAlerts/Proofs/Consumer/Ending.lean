import FlagAlerts.Proofs.Consumer.Standing

/-!
# Runs that are over

A run of the consumer is over when it takes no message any more, its workers have left, and its
channel is closed and empty. Whatever happens then, it stays over, and nothing is added to its part
of the ledger.
-/

namespace FlagAlerts.Consumer

open Intake Ledger

/-- Nothing can come of the run any more. -/
structure IsOver (c : Consumer) (i : Nat) (run : ConsumerRun) : Prop where
  present : c.runs[i]? = some run
  ends : run.phase = .leaving ∨ run.phase = .finished ∨ run.phase = .aborted
  deserted : c.intake.isDeserted i = true
  shut : c.intake.IsShut i

section Moves

variable {queued : List BusMessage} {l k : Ledger} {c d : Consumer} {mv : Move} {i r : Nat}
  {run : ConsumerRun}

theorem leave_flow_run (bound : run.run < c.intake.runs.length) :
    ∃ returned, Flow run.run [] returned [] c.intake (c.leave i run).intake := by
  have told : Flow run.run [] [] [] c.intake (c.intake.cancel run.run) :=
    setRun_flow _ _ fun _ => ⟨rfl, fun h => h⟩
  have present : run.run < (c.intake.cancel run.run).runs.length := by rwa [told.runs]
  exact ⟨_, told.trans (close_flow (List.getElem?_eq_getElem present)).1⟩

/-- A step of a run changes no other run, and no other run notices it. -/
theorem Polled.frame (h : Polled c i run d) (kept : Kept queued l c)
    (hrun : c.runs[i]? = some run) :
    Apart i c.intake d.intake ∧ ∃ run', d.runs = c.runs.set i run' := by
  obtain rfl := (kept.each i run hrun).number
  obtain ⟨bound, -⟩ := List.getElem?_eq_some_iff.1 hrun
  cases h with
  | left waits ends next =>
    subst next
    obtain ⟨returned, flow⟩ := leave_flow_run (c := c) (i := run.run) (kept.runs.symm ▸ bound)
    exact ⟨flow.toApart, _, rfl⟩
  | took waits goesOn received next =>
    subst next
    exact ⟨(receive_flow received).toApart, _, rfl⟩
  | broke waits goesOn received next =>
    obtain ⟨-, run', -, -, -, runs, apart, -⟩ := cutOff_flow (r := run.run) (by exact rfl) next
    refine ⟨(receive_flow received).toApart.trans apart, run', ?_⟩
    rw [runs]
    exact List.set_set ..
  | settled handles held next =>
    obtain ⟨workers, runs, -, -⟩ := settleHeld_frame held
    subst next
    exact ⟨.of_same _ workers runs, _, rfl⟩
  | finished leaves deserted next =>
    subst next
    exact ⟨.of_same _ rfl rfl, _, rfl⟩

/-- A move of nobody or of another run leaves a run over. -/
theorem IsOver.of_other (isOver : IsOver c i run) (present : d.runs[i]? = some run)
    (apart : Apart r c.intake d.intake) : IsOver d i run :=
  ⟨present, isOver.ends, apart.deserted i isOver.deserted, apart.shut i isOver.shut⟩

/-- A run that is over has no messages. -/
theorem IsOver.content (isOver : IsOver c i run) : c.intake.content i = 0 := by
  rw [Intake.content, carried_of_deserted isOver.deserted, isOver.shut.buffered, add_zero]

/-- No worker of a run that is over takes a step. -/
theorem IsOver.owner_ne (isOver : IsOver c i run) {worker : Nat} {w : Worker}
    (hw : c.intake.workers[worker]? = some w) (works : w.phase ≠ .gone) : w.run ≠ i := fun same =>
  works (isDeserted_iff.1 isOver.deserted w (List.mem_of_getElem? hw) same)

theorem proceed_gone {s : Intake} {worker : Nat} {w : Worker} {own : IntakeRun}
    (gone : w.phase = .gone) : s.proceed worker w own = none := by
  simp [Intake.proceed, gone]

theorem work_gone {s t : Intake} {worker : Nat} {w : Worker} (hw : s.workers[worker]? = some w)
    (next : s.work? worker = some t) : w.phase ≠ .gone := by
  intro gone
  cases hrun : s.runs[w.run]? <;> simp [work?, hw, hrun, gone, quit, proceed_gone] at next

/-- Where nothing leaves the queue and nothing is settled, only what a step of the run begins or is
done with can be entered. -/
theorem blank_of_still (owner : c.owner? mv = some i)
    (queue : d.intake.queue.messages = c.intake.queue.messages)
    (settlements : d.intake.settlements = c.intake.settlements) (begun : (c.entry mv d).begun = [])
    (handled : (c.entry mv d).handled = []) : (c.entry mv d).IsBlank i := by
  obtain ⟨-, pulled, settled⟩ := entry_of_owner (p := []) (x := []) owner (by rw [queue]; rfl)
    (by rw [settlements, List.append_nil])
  exact ⟨by rw [pulled]; rfl, by rw [begun]; rfl, by rw [handled]; rfl, by rw [settled]; rfl⟩

/-- A run that is over stays so when it finishes. -/
theorem IsOver.poll (isOver : IsOver c i run) (h : c.poll? i = some d) :
    (c.entry (.act (.poll i)) d).IsBlank i ∧ ∃ run', IsOver d i run' ∧
      run'.summary = run.summary ∧ run'.effects = run.effects := by
  obtain ⟨run', hrun, polled⟩ := poll_eq_some h
  obtain rfl : run = run' := Option.some.inj (isOver.present.symm.trans hrun)
  obtain ⟨bound, -⟩ := List.getElem?_eq_some_iff.1 hrun
  have ends := isOver.ends
  cases polled with
  | left waits | took waits | broke waits => simp [waits] at ends
  | settled handles => simp [handles] at ends
  | finished leaves deserted next =>
    subst next
    refine ⟨blank_of_still rfl rfl rfl ?_ ?_, { run with phase := .finished }, ?_, rfl, rfl⟩
    · simp [entry, nextBegun?, hrun, leaves]
    · simp [entry, nextHandled?, hrun, leaves]
    · exact ⟨List.getElem?_set_self bound, .inr (.inl rfl), isOver.deserted, isOver.shut⟩

/-- A run that is over stays so when it is cut off. -/
theorem IsOver.abort (isOver : IsOver c i run) (kept : Kept queued l c) (h : c.abort? i = some d) :
    (c.entry (.act (.abort i)) d).IsBlank i ∧ ∃ run', IsOver d i run' ∧
      run'.summary = run.summary ∧ run'.effects = run.effects := by
  have number := (kept.each i run isOver.present).number
  obtain ⟨bound, -⟩ := List.getElem?_eq_some_iff.1 isOver.present
  have empty : run.phase.inHand = [] := by
    rcases isOver.ends with phase | phase | phase <;> rw [phase] <;> rfl
  unfold abort? at h
  rw [isOver.present, Option.bind_eq_bind, Option.bind_some] at h
  split at h
  next handles => simp [handles, ConsumerPhase.inHand] at empty
  next =>
    obtain ⟨b, run', -, -, -, -, apart, queue, settlements, balance⟩ := cutOff_flow number h
    have none : b = [] := by
      have few := Multiset.le_add_right (b : Multiset BusMessage) (d.intake.content i)
      rw [← balance, isOver.content] at few
      exact (Multiset.coe_eq_zero b).1 (Multiset.le_zero.1 few)
    rw [empty, none, List.append_nil, List.map_nil, List.append_nil] at settlements
    have owner : c.owner? (.act (.abort i)) = some i := rfl
    have blank := blank_of_still owner queue settlements rfl rfl
    obtain ⟨s, -, -, -, -, rfl⟩ := cutOff_eq_some h
    refine ⟨blank, { run with phase := .aborted }, ?_, rfl, rfl⟩
    refine ⟨?_, .inr (.inr rfl), apart.deserted i isOver.deserted, apart.shut i isOver.shut⟩
    show (c.runs.set i _)[i]? = _
    rw [List.getElem?_set_self bound, List.append_nil]

/-- A run that is over stays so, and nothing is entered for it any more. -/
theorem IsOver.move (isOver : IsOver c i run) (kept : Kept queued l c) (h : c.move? mv = some d) :
    (c.entry mv d).IsBlank i ∧ ∃ run', IsOver d i run' ∧
      run'.summary = run.summary ∧ run'.effects = run.effects := by
  cases mv with
  | rehandle handler | lag ms | turn failures staysOpen =>
    cases h
    refine ⟨entry_isBlank (by simp [owner?]), run, ?_, rfl, rfl⟩
    exact isOver.of_other isOver.present (.of_same i rfl rfl)
  | overrun worker =>
    obtain ⟨w, own, t, hw, hown, next, rfl⟩ := overrun_eq_some h
    have works : w.phase ≠ .gone := fun gone => by simp [proceed_gone gone] at next
    obtain ⟨p, b, flow⟩ := proceed_flow hw hown next
    have other := isOver.owner_ne hw works
    refine ⟨entry_isBlank (by simpa [owner?, hw] using other), run, ?_, rfl, rfl⟩
    exact isOver.of_other isOver.present flow.toApart
  | act a =>
    cases a with
    | push attributes data =>
      cases h
      refine ⟨entry_isBlank (by simp [owner?]), run, ?_, rfl, rfl⟩
      exact isOver.of_other isOver.present ((push_frame c.intake attributes data).1 i)
    | failPull =>
      cases h
      refine ⟨entry_isBlank (by simp [owner?]), run, ?_, rfl, rfl⟩
      exact isOver.of_other isOver.present (.of_same i rfl rfl)
    | start =>
      cases h
      obtain ⟨bound, -⟩ := List.getElem?_eq_some_iff.1 isOver.present
      refine ⟨entry_isBlank (by simp [owner?]), run, ⟨?_, isOver.ends, ?_, isOver.shut.start⟩, rfl, rfl⟩
      · rw [Consumer.start, List.getElem?_append_left bound, isOver.present]
      · exact deserted_start (by rw [kept.runs]; exact bound) isOver.deserted
    | cancel r =>
      cases h
      by_cases same : r = i
      · refine ⟨entry_isBlank (by simp [owner?]), { run with isCancelled := true }, ?_, rfl, rfl⟩
        have present : (c.cancel r).runs[i]? = some { run with isCancelled := true } := by
          rw [cancel, same, List.getElem?_modify_eq, isOver.present]
          rfl
        exact ⟨present, isOver.ends, isOver.deserted, isOver.shut⟩
      · refine ⟨entry_isBlank (by simp [owner?]), run, isOver.of_other ?_ (.of_same i rfl rfl), rfl, rfl⟩
        rw [cancel, List.getElem?_modify_ne _ _ same, isOver.present]
    | abort r =>
      by_cases same : r = i
      · subst same
        exact isOver.abort kept h
      · obtain ⟨run', done, hrun, next⟩ := abort_eq_some h
        obtain ⟨-, after, -, -, -, runs, apart, -⟩ := cutOff_flow (kept.each r run' hrun).number next
        refine ⟨entry_isBlank (by simpa [owner?] using same), run, ?_, rfl, rfl⟩
        exact isOver.of_other (by rw [runs, List.getElem?_set_ne same, isOver.present]) apart
    | poll r =>
      by_cases same : r = i
      · subst same
        exact isOver.poll h
      · obtain ⟨run', hrun, polled⟩ := poll_eq_some h
        obtain ⟨apart, after, runs⟩ := polled.frame kept hrun
        refine ⟨entry_isBlank (by simpa [owner?] using same), run, ?_, rfl, rfl⟩
        exact isOver.of_other (by rw [runs, List.getElem?_set_ne same, isOver.present]) apart
    | work worker =>
      obtain ⟨t, next, rfl⟩ := Option.map_eq_some_iff.1 h
      obtain ⟨w, p, b, hw, flow⟩ := work_flow next
      have other := isOver.owner_ne hw (work_gone hw next)
      refine ⟨entry_isBlank (by simpa [owner?, hw] using other), run, ?_, rfl, rfl⟩
      exact isOver.of_other isOver.present flow.toApart
    | pass ms =>
      obtain rfl := pass_eq_some h
      refine ⟨entry_isBlank (by simp [owner?]), run, ?_, rfl, rfl⟩
      exact isOver.of_other isOver.present (.of_same i rfl rfl)

/-- Two ledgers say the same of a run. -/
def Ledger.AgreeOn (l k : Ledger) (i : Nat) : Prop :=
  ofRun i k.pulled = ofRun i l.pulled ∧ ofRun i k.begun = ofRun i l.begun ∧
    ofRun i k.handled = ofRun i l.handled ∧ ofRun i k.settled = ofRun i l.settled

theorem Ledger.agreeOn_append {e : Ledger} (blank : e.IsBlank i) : AgreeOn l (l ++ e) i := by
  obtain ⟨pulled, begun, handled, settled⟩ := blank
  exact ⟨by simp [pulled], by simp [begun], by simp [handled], by simp [settled]⟩

theorem Ledger.AgreeOn.trans {m : Ledger} (first : AgreeOn l k i) (second : AgreeOn k m i) :
    AgreeOn l m i :=
  ⟨second.1.trans first.1, second.2.1.trans first.2.1, second.2.2.1.trans first.2.2.1,
    second.2.2.2.trans first.2.2.2⟩

/-- However a course goes on, a run that is over stays so, and nothing more is entered for it. -/
theorem IsOver.follow {moves : List Move} (isOver : IsOver c i run) (kept : Kept queued l c)
    (h : follow? l c moves = some (k, d)) :
    AgreeOn l k i ∧ ∃ run', IsOver d i run' ∧
      run'.summary = run.summary ∧ run'.effects = run.effects := by
  induction moves generalizing l c run with
  | nil =>
    cases h
    exact ⟨⟨rfl, rfl, rfl, rfl⟩, run, isOver, rfl, rfl⟩
  | cons mv rest ih =>
    obtain ⟨e, moved, h⟩ := Option.bind_eq_some_iff.1 h
    obtain ⟨blank, run', isOver', summary', effects'⟩ := isOver.move kept moved
    obtain ⟨agree, after, isOver, summary, effects⟩ := ih isOver' (kept.move moved) h
    exact ⟨(agreeOn_append blank).trans agree, after, isOver, summary.trans summary',
      effects.trans effects'⟩

end Moves

end FlagAlerts.Consumer
