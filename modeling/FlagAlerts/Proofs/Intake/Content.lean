import FlagAlerts.Intake.Action
import Mathlib.Algebra.BigOperators.Group.List.Basic
import Mathlib.Algebra.Order.Group.Multiset
import Mathlib.Tactic.Abel

/-!
# The messages that a run of an intake has

A message that was pulled for a run and neither settled nor received is with one of the run's
workers or in the run's channel. Both are counted here as multisets, and every change of an intake
is described by what it does to them: `Flow r pulled returned received s t` says that from `s` to
`t` the run `r` got the messages `pulled` from the queue, handed `returned` back and gave `received`
to its receiver, that it lost none on the way, and that no other run noticed. Flows can be put one
after another.
-/

namespace FlagAlerts

/-- The message that a worker has in this phase. -/
def Phase.load : Phase → Multiset BusMessage
  | .weighing m _ | .pacing m _ | .resting m | .sending m => {m}
  | _ => 0

/-- The settlement of a message that is handed back. -/
def BusMessage.handedBack (m : BusMessage) : Settlement := ⟨m.id, false⟩

namespace Intake

/-- The messages that a run's workers have. -/
def carried (workers : List Worker) (r : Nat) : Multiset BusMessage :=
  (workers.map fun w => if w.run = r then w.phase.load else 0).sum

/-- The messages in a run's channel. -/
def buffered (runs : List IntakeRun) (r : Nat) : Multiset BusMessage :=
  ((runs[r]?.map (·.channel)).getD [] : List BusMessage)

/-- The messages that a run has. -/
def content (s : Intake) (r : Nat) : Multiset BusMessage :=
  carried s.workers r + buffered s.runs r

/-- The run's channel is closed and empty. -/
def IsShut (s : Intake) (r : Nat) : Prop :=
  ∃ run, s.runs[r]? = some run ∧ run.isClosed = true ∧ run.channel = []

/-- From one state to another only one run may have noticed anything, and no channel was opened and no
worker came back. -/
structure Apart (r : Nat) (s t : Intake) : Prop where
  others : ∀ r', r' ≠ r → t.content r' = s.content r'
  shut : ∀ r', s.IsShut r' → t.IsShut r'
  deserted : ∀ r', s.isDeserted r' = true → t.isDeserted r' = true
  runs : t.runs.length = s.runs.length
  workers : t.workers.map (·.run) = s.workers.map (·.run)

/-- What a run got from the queue, handed back and gave to its receiver from one state to another,
while it lost nothing. -/
structure Flow (r : Nat) (pulled returned received : List BusMessage) (s t : Intake) : Prop
    extends Apart r s t where
  queue : s.queue.messages = pulled ++ t.queue.messages
  settlements : t.settlements = s.settlements ++ returned.map (·.handedBack)
  balance : (pulled : Multiset BusMessage) + s.content r = returned + received + t.content r

/-- Nobody notices anything where workers and channels stay as they are. -/
theorem Apart.of_same {s t : Intake} (r : Nat) (workers : t.workers = s.workers)
    (runs : t.runs = s.runs) : Apart r s t where
  others := fun r' _ => by simp [content, workers, runs]
  shut := fun r' h => by simpa only [IsShut, runs] using h
  deserted := fun r' h => by simpa only [isDeserted, workers] using h
  runs := by rw [runs]
  workers := by rw [workers]

theorem Apart.trans {r : Nat} {s t u : Intake} (first : Apart r s t) (second : Apart r t u) :
    Apart r s u where
  others := fun r' h => (second.others r' h).trans (first.others r' h)
  shut := fun r' h => second.shut r' (first.shut r' h)
  deserted := fun r' h => second.deserted r' (first.deserted r' h)
  runs := second.runs.trans first.runs
  workers := second.workers.trans first.workers

/-- Nothing flows where queue, settlements, workers and channels stay as they are. -/
theorem Flow.of_same {s t : Intake} (r : Nat) (queue : t.queue.messages = s.queue.messages)
    (settlements : t.settlements = s.settlements) (workers : t.workers = s.workers)
    (runs : t.runs = s.runs) : Flow r [] [] [] s t where
  queue := by simp [queue]
  settlements := by simp [settlements]
  balance := by simp [content, workers, runs]
  toApart := .of_same r workers runs

/-- One flow after another. -/
theorem Flow.trans {r : Nat} {p p' b b' m m' : List BusMessage} {s t u : Intake}
    (first : Flow r p b m s t) (second : Flow r p' b' m' t u) :
    Flow r (p ++ p') (b ++ b') (m ++ m') s u where
  queue := by rw [first.queue, second.queue, List.append_assoc]
  settlements := by
    rw [second.settlements, first.settlements, List.map_append, List.append_assoc]
  balance := by
    simp only [← Multiset.coe_add]
    calc (p + p' : Multiset BusMessage) + s.content r
        = p' + (p + s.content r) := by abel
      _ = b + m + (p' + t.content r) := by rw [first.balance]; abel
      _ = b + b' + (m + m') + u.content r := by rw [second.balance]; abel
  toApart := first.toApart.trans second.toApart

/-! ## Workers -/

section Workers

variable {s : Intake} {workers : List Worker} {i r : Nat} {w : Worker}

/-- What a run's workers have after one of them went on to another phase. -/
theorem carried_set (h : workers[i]? = some w) (v : Worker) (same : v.run = w.run) :
    carried (workers.set i v) r + (if w.run = r then w.phase.load else 0) =
      carried workers r + (if w.run = r then v.phase.load else 0) := by
  induction workers generalizing i with
  | nil => simp at h
  | cons x rest ih =>
    cases i with
    | zero =>
      obtain rfl : x = w := by simpa using h
      simp only [carried, List.set_cons_zero, List.map_cons, List.sum_cons, same]
      abel
    | succ i =>
      have step := ih (by simpa using h)
      simp only [carried, List.set_cons_succ, List.map_cons, List.sum_cons] at step ⊢
      rw [add_assoc, step]
      abel

theorem isDeserted_iff :
    s.isDeserted r = true ↔ ∀ w ∈ s.workers, w.run = r → w.phase = .gone := by
  simp only [isDeserted, List.all_eq_true, Bool.or_eq_true, bne_iff_ne, beq_iff_eq]
  exact forall₂_congr fun w _ => by tauto

theorem carried_of_deserted (h : s.isDeserted r = true) : carried s.workers r = 0 := by
  apply List.sum_eq_zero
  intro x hx
  obtain ⟨w, hw, rfl⟩ := List.mem_map.1 hx
  by_cases run : w.run = r
  · simp [run, isDeserted_iff.1 h w hw run, Phase.load]
  · simp [run]

theorem workers_setPhase (h : s.workers[i]? = some w) (phase : Phase) :
    (s.setPhase i phase).workers = s.workers.set i { w with phase := phase } := by
  apply List.ext_getElem?
  intro j
  obtain ⟨bound, rfl⟩ := List.getElem?_eq_some_iff.1 h
  by_cases hij : i = j
  · subst hij
    simp [setPhase, bound]
  · simp [setPhase, hij]

@[simp] theorem runs_setPhase (s : Intake) (i : Nat) (phase : Phase) :
    (s.setPhase i phase).runs = s.runs := rfl

/-- Workers that are gone stay gone when one that is not goes on. -/
theorem deserted_of_set {t : Intake} {v : Worker} (h : s.workers[i]? = some w)
    (workers : t.workers = s.workers.set i v) (same : v.run = w.run)
    (stays : w.phase = .gone → v.phase = .gone) (deserted : s.isDeserted r = true) :
    t.isDeserted r = true := by
  rw [isDeserted_iff] at deserted ⊢
  intro x hx run
  rw [workers] at hx
  rcases List.mem_or_eq_of_mem_set hx with old | rfl
  · exact deserted x old run
  · exact stays (deserted w (List.mem_of_getElem? h) (same ▸ run))

theorem runs_set {v : Worker} (h : workers[i]? = some w) (same : v.run = w.run) :
    (workers.set i v).map (·.run) = workers.map (·.run) := by
  obtain ⟨bound, rfl⟩ := List.getElem?_eq_some_iff.1 h
  have self := List.set_getElem_self (show i < (workers.map (·.run)).length by simpa using bound)
  rwa [List.getElem_map, ← same, ← List.map_set] at self

/-- One worker goes on to another phase, and everything else stays. -/
theorem flow_of_set {t : Intake} {v : Worker} {pulled returned : List BusMessage}
    (h : s.workers[i]? = some w) (workers : t.workers = s.workers.set i v) (same : v.run = w.run)
    (stays : w.phase = .gone → v.phase = .gone) (runs : t.runs = s.runs)
    (queue : s.queue.messages = pulled ++ t.queue.messages)
    (settlements : t.settlements = s.settlements ++ returned.map (·.handedBack))
    (balance : (pulled : Multiset BusMessage) + w.phase.load = returned + v.phase.load) :
    Flow w.run pulled returned [] s t where
  queue := queue
  settlements := settlements
  balance := by
    have moved := carried_set (r := w.run) h v same
    simp only [if_true] at moved
    rw [content, content, workers, runs]
    apply add_right_cancel (b := w.phase.load)
    calc (pulled : Multiset BusMessage) + (carried s.workers w.run + buffered s.runs w.run) +
          w.phase.load
        = carried s.workers w.run + buffered s.runs w.run + (pulled + w.phase.load) := by abel
      _ = carried s.workers w.run + v.phase.load + returned + buffered s.runs w.run := by
        rw [balance]; abel
      _ = _ := by rw [← moved, Multiset.coe_nil]; abel
  others := by
    intro r' h'
    have moved := carried_set (r := r') h v same
    simp only [Ne.symm h', if_false, add_zero] at moved
    rw [content, content, workers, runs, moved]
  shut := fun r' h' => by simpa only [IsShut, runs] using h'
  deserted := fun r' h' => deserted_of_set h workers same stays h'
  runs := by rw [runs]
  workers := by rw [workers, runs_set h same]

end Workers

/-! ## Channels -/

section Channels

variable {s : Intake} {r : Nat} {run : IntakeRun} {change : IntakeRun → IntakeRun}

@[simp] theorem handBack_settlements (s : Intake) (ms : List BusMessage) :
    (s.handBack ms).settlements = s.settlements ++ ms.map (·.handedBack) := by
  induction ms generalizing s with
  | nil => simp [handBack]
  | cons m rest ih =>
    rw [show s.handBack (m :: rest) = (s.settle m false).handBack rest from rfl, ih]
    simp [settle, settleLight, BusMessage.handedBack]

/-- Handing messages back changes nothing but permits and settlements. -/
theorem handBack_frame (s : Intake) (ms : List BusMessage) :
    (s.handBack ms).queue = s.queue ∧ (s.handBack ms).workers = s.workers ∧
      (s.handBack ms).runs = s.runs := by
  induction ms generalizing s with
  | nil => exact ⟨rfl, rfl, rfl⟩
  | cons m rest ih => exact ih (s.settle m false)

theorem buffered_of_getElem? {runs : List IntakeRun} (h : runs[r]? = some run) :
    buffered runs r = run.channel := by
  simp [buffered, h]

/-- Only the channel of a run that was changed may differ. -/
theorem buffered_modify_ne {runs : List IntakeRun} {r' : Nat} (h : r' ≠ r) :
    buffered (runs.modify r change) r' = buffered runs r' := by
  simp [buffered, List.getElem?_modify_ne _ _ (Ne.symm h)]

theorem IsShut.buffered (h : s.IsShut r) : buffered s.runs r = 0 := by
  obtain ⟨run, hrun, _, empty⟩ := h
  simp [buffered_of_getElem? hrun, empty]

/-- A run changes its channel, while all workers stay as they are. -/
theorem flow_of_setRun {t : Intake} {returned received : List BusMessage}
    (h : s.runs[r]? = some run) (workers : t.workers = s.workers)
    (runs : t.runs = s.runs.modify r change) (queue : t.queue.messages = s.queue.messages)
    (settlements : t.settlements = s.settlements ++ returned.map (·.handedBack))
    (closed : run.isClosed = true → (change run).isClosed = true)
    (channel : (run.channel : Multiset BusMessage) = returned + received + (change run).channel) :
    Flow r [] returned received s t where
  queue := by simp [queue]
  settlements := settlements
  balance := by
    have after : t.runs[r]? = some (change run) := by rw [runs]; simp [h]
    rw [content, content, workers, buffered_of_getElem? h, buffered_of_getElem? after, channel,
      Multiset.coe_nil]
    abel
  others := fun r' h' => by rw [content, content, workers, runs, buffered_modify_ne h']
  shut := fun r' ⟨run', hrun', isClosed, empty⟩ => by
    by_cases same : r' = r
    · subst same
      obtain rfl : run = run' := by simpa [h] using hrun'
      rw [empty, Multiset.coe_nil] at channel
      have none := congrArg Multiset.card channel
      simp only [Multiset.card_zero, Multiset.card_add, Multiset.coe_card] at none
      exact ⟨change run, by rw [runs]; simp [h], closed isClosed,
        List.eq_nil_of_length_eq_zero (by omega)⟩
    · exact ⟨run', by rw [runs]; simpa [List.getElem?_modify_ne _ _ (Ne.symm same)] using hrun',
        isClosed, empty⟩
  deserted := fun r' h' => by rwa [isDeserted, workers] at *
  runs := by rw [runs, List.length_modify]
  workers := by rw [workers]

/-- Nothing moves when a run is only told something. -/
theorem setRun_flow (s : Intake) (r : Nat)
    (keeps : ∀ run : IntakeRun, (change run).channel = run.channel ∧
      (run.isClosed = true → (change run).isClosed = true)) :
    Flow r [] [] [] s (s.setRun r change) := by
  cases h : s.runs[r]? with
  | some run =>
    exact flow_of_setRun h rfl rfl rfl (by simp [setRun]) (keeps run).2 (by simp [(keeps run).1])
  | none =>
    have same : s.setRun r change = s := by
      rw [setRun, List.modify_eq_self (List.getElem?_eq_none_iff.1 h)]
    rw [same]
    exact .of_same r rfl rfl rfl rfl

/-- A run's channel is handed back. -/
theorem flow_of_emptied (h : s.runs[r]? = some run)
    (keeps : ∀ run : IntakeRun, (change run).channel = [] ∧
      (run.isClosed = true → (change run).isClosed = true)) :
    Flow r [] run.channel [] s ((s.handBack run.channel).setRun r change) := by
  obtain ⟨queue, workers, runs⟩ := handBack_frame s run.channel
  exact flow_of_setRun h workers (congrArg (·.modify r change) runs) (congrArg _ queue)
    (handBack_settlements s run.channel) (keeps run).2 (by simp [(keeps run).1])

theorem sweep_flow (s : Intake) (r : Nat) : ∃ returned, Flow r [] returned [] s (s.sweep r) := by
  unfold sweep
  split
  next run h =>
    split
    · exact ⟨_, flow_of_emptied h fun run => ⟨rfl, fun h => h⟩⟩
    · exact ⟨[], .of_same r rfl rfl rfl rfl⟩
  next => exact ⟨[], .of_same r rfl rfl rfl rfl⟩

/-- A run that leaves closes its channel for good and hands back what is in it. -/
theorem close_flow (h : s.runs[r]? = some run) :
    Flow r [] run.channel [] s (s.close r) ∧ (s.close r).IsShut r := by
  simp only [close, h]
  refine ⟨flow_of_emptied h fun run => ⟨rfl, fun _ => rfl⟩, ?_⟩
  refine ⟨{ run with channel := [], isClosed := true }, ?_, rfl, rfl⟩
  rw [setRun, (handBack_frame s run.channel).2.2]
  simp [h]

theorem receive_flow {m : BusMessage} {t : Intake} (h : s.receive? r = some (m, t)) :
    Flow r [] [] [m] s t := by
  unfold receive? at h
  cases hrun : s.runs[r]? with
  | none => simp [hrun] at h
  | some run =>
    simp only [hrun, Option.bind_eq_bind, Option.bind_some] at h
    split at h
    · cases h
    next head rest channel =>
      split at h
      · cases h
      · obtain ⟨rfl, rfl⟩ : head = m ∧ _ = t := by simpa using h
        exact flow_of_setRun hrun rfl rfl rfl (by simp [setRun]) (fun h => h)
          (by rw [channel]; simp)

end Channels

end Intake

end FlagAlerts
