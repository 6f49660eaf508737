import FlagAlerts.Proofs.Intake.Content
import Mathlib.Algebra.BigOperators.Group.Multiset.Basic
import Mathlib.Algebra.Group.Prod

/-!
# Where the permits are

A permit of an intake is free, or it is held by a worker or by a message that is not settled. What
is held is summed up over all places in which a worker or a message can be, and every change of an
intake is described by what it does to the books: to what is free and settled, and what is held.

A step of a worker, a receiver that takes or settles a message, and a run that starts, is closed or
abandoned leave the books as they are but for the messages that are pulled.
-/

namespace FlagAlerts

/-- What a worker or a message keeps: message permits, byte permits, and the names of messages that
are not settled. -/
abbrev Holding := Nat × Nat × Multiset String

/-- What a message keeps that has both kinds of permits. -/
def Limits.holding (l : Limits) (m : BusMessage) : Holding := (1, l.weight m, {m.id})

/-- What messages add to the books when they are pulled: their names. -/
def BusMessage.names (ms : List BusMessage) : Holding := (0, 0, Multiset.ofList (ms.map (·.id)))

@[simp] theorem BusMessage.names_nil : BusMessage.names [] = 0 := rfl

theorem BusMessage.names_append (ms ms' : List BusMessage) :
    BusMessage.names (ms ++ ms') = BusMessage.names ms + BusMessage.names ms' := by
  simp [BusMessage.names, ← Multiset.coe_add]

namespace Phase

/-- The message permits that a worker has in this phase. -/
def messagePermits : Phase → Nat
  | .asking _ | .gone => 0
  | _ => 1

/-- The message that a worker has byte permits for in this phase. -/
def weighed : Phase → Multiset BusMessage
  | .pacing m _ | .resting m | .sending m => {m}
  | _ => 0

/-- What a worker keeps in this phase. -/
def holding (l : Limits) (p : Phase) : Holding :=
  (p.messagePermits, (p.weighed.map l.weight).sum, p.load.map (·.id))

section Holding

variable (l : Limits) (m : BusMessage) (place : Option Nat)

@[simp] theorem holding_asking : (asking place).holding l = 0 := rfl

@[simp] theorem holding_gone : gone.holding l = 0 := rfl

@[simp] theorem holding_pulling : pulling.holding l = (1, 0, 0) := rfl

@[simp] theorem holding_listening (n : Nat) (isNoticed : Bool) :
    (listening n isNoticed).holding l = (1, 0, 0) := rfl

@[simp] theorem holding_backingOff (deadline : Nat) : (backingOff deadline).holding l = (1, 0, 0) := rfl

@[simp] theorem holding_weighing : (weighing m place).holding l = (1, 0, {m.id}) := rfl

@[simp] theorem holding_pacing : (pacing m place).holding l = l.holding m := by
  simp [holding, messagePermits, Phase.weighed, load, Limits.holding]

@[simp] theorem holding_resting : (resting m).holding l = l.holding m := holding_pacing l m none

@[simp] theorem holding_sending : (sending m).holding l = l.holding m := holding_pacing l m none

end Holding

end Phase

namespace Intake

/-- A sum over all places where a message can be that was pulled and not settled. -/
def gather {M : Type} [AddCommMonoid M] (s : Intake) (phase : Phase → M) (message : BusMessage → M) :
    M :=
  (s.workers.map fun w => phase w.phase).sum +
    (s.runs.map fun run => (run.channel.map message).sum).sum + (s.held.map message).sum

/-- The messages that were pulled and not settled. -/
def unsettled (s : Intake) : Multiset BusMessage := s.gather Phase.load fun m => {m}

/-- The messages that have passed the gate for bytes and are not settled. -/
def weighed (s : Intake) : Multiset BusMessage := s.gather Phase.weighed fun m => {m}

/-- The message permits that are held. -/
def heldMessagePermits (s : Intake) : Nat := s.gather Phase.messagePermits fun _ => 1

/-- The byte permits that are held. -/
def heldBytePermits (s : Intake) : Nat := (s.weighed.map s.limits.weight).sum

/-- All that is held. -/
def holdings (s : Intake) : Holding := s.gather (Phase.holding s.limits) s.limits.holding

/-- What is free, and the names of the messages that are settled. -/
def stock (s : Intake) : Holding :=
  (s.freeMessages, s.freeBytes, Multiset.ofList (s.settlements.map (·.id)))

/-- All permits and all messages that were pulled. -/
def books (s : Intake) : Holding := s.stock + s.holdings

/-! ## Sums over all places -/

section Gather

variable {M N : Type} [AddCommMonoid M] [AddCommMonoid N] {s t : Intake} {i r : Nat} {w v : Worker}
  {phase : Phase → M} {message : BusMessage → M}

theorem sum_map_hom {α : Type} (f : M →+ N) (g : α → M) (xs : List α) :
    f (xs.map g).sum = (xs.map fun x => f (g x)).sum := by
  rw [map_list_sum, List.map_map]
  rfl

/-- A part of what is gathered is gathered from the parts. -/
theorem gather_hom (f : M →+ N) (s : Intake) (phase : Phase → M) (message : BusMessage → M) :
    f (s.gather phase message) = s.gather (fun p => f (phase p)) fun m => f (message m) := by
  simp only [gather, map_add, sum_map_hom]

theorem holdings_fst (s : Intake) : s.holdings.1 = s.heldMessagePermits :=
  gather_hom (AddMonoidHom.fst Nat (Nat × Multiset String)) s _ _

theorem holdings_names (s : Intake) : s.holdings.2.2 = s.unsettled.map (·.id) := by
  have names := gather_hom (Multiset.mapAddMonoidHom fun m : BusMessage => m.id) s Phase.load
    fun m => {m}
  have third := gather_hom ((AddMonoidHom.snd Nat (Multiset String)).comp
    (AddMonoidHom.snd Nat (Nat × Multiset String))) s (Phase.holding s.limits) s.limits.holding
  exact third.trans names.symm

/-- The sum of a weight over messages. -/
def weightHom (weight : BusMessage → Nat) : Multiset BusMessage →+ Nat where
  toFun ms := (ms.map weight).sum
  map_zero' := rfl
  map_add' := by simp

theorem holdings_bytes (s : Intake) : s.holdings.2.1 = s.heldBytePermits := by
  have bytes := gather_hom (weightHom s.limits.weight) s Phase.weighed fun m => {m}
  have second := gather_hom ((AddMonoidHom.fst Nat (Multiset String)).comp
    (AddMonoidHom.snd Nat (Nat × Multiset String))) s (Phase.holding s.limits) s.limits.holding
  exact second.trans bytes.symm

theorem sum_set {α : Type} {xs : List α} {x : α} (f : α → M) (h : xs[i]? = some x) (y : α) :
    ((xs.set i y).map f).sum + f x = (xs.map f).sum + f y := by
  induction xs generalizing i with
  | nil => simp at h
  | cons z rest ih =>
    cases i with
    | zero =>
      obtain rfl : z = x := by simpa using h
      simp only [List.set_cons_zero, List.map_cons, List.sum_cons]
      abel
    | succ i =>
      have step := ih (by simpa using h)
      simp only [List.set_cons_succ, List.map_cons, List.sum_cons]
      rw [add_assoc, step]
      abel

theorem sum_modify {runs : List IntakeRun} (f : IntakeRun → M) {run : IntakeRun}
    (h : runs[r]? = some run) (change : IntakeRun → IntakeRun) :
    ((runs.modify r change).map f).sum + f run = (runs.map f).sum + f (change run) := by
  induction runs generalizing r with
  | nil => simp at h
  | cons x rest ih =>
    cases r with
    | zero =>
      obtain rfl : x = run := by simpa using h
      simp only [List.modify_zero_cons, List.map_cons, List.sum_cons]
      abel
    | succ r =>
      have step := ih (by simpa using h)
      simp only [List.modify_succ_cons, List.map_cons, List.sum_cons]
      rw [add_assoc, step]
      abel

end Gather

/-! ## What changes the books -/

section Books

variable {s t : Intake} {i r : Nat} {w v : Worker} {gained : Holding}

/-- One worker goes on to another phase. -/
theorem books_of_set (h : s.workers[i]? = some w) (workers : t.workers = s.workers.set i v)
    (runs : t.runs = s.runs) (held : t.held = s.held) (limits : t.limits = s.limits)
    (stock : t.stock + v.phase.holding s.limits = s.stock + w.phase.holding s.limits + gained) :
    t.books = s.books + gained := by
  have moved := sum_set (fun w => w.phase.holding s.limits) h v
  simp only [books, holdings, gather, workers, runs, held, limits]
  apply add_right_cancel (b := w.phase.holding s.limits)
  rw [show ∀ a b c d e : Holding, a + (b + c + d) + e = a + (b + e) + c + d by intros; abel, moved]
  rw [show ∀ a b c d e : Holding, a + (b + c) + d + e = (a + c) + b + d + e by intros; abel, stock]
  abel

/-- One run changes its channel, and what its messages keep is in the stock from now on. -/
theorem books_of_setRun {run : IntakeRun} {change : IntakeRun → IntakeRun}
    (h : s.runs[r]? = some run) (runs : t.runs = s.runs.modify r change)
    (workers : t.workers = s.workers) (held : t.held = s.held) (limits : t.limits = s.limits)
    (stock : t.stock + ((change run).channel.map s.limits.holding).sum =
      s.stock + (run.channel.map s.limits.holding).sum) : t.books = s.books := by
  have moved := sum_modify (fun run => (run.channel.map s.limits.holding).sum) h change
  simp only [books, holdings, gather, workers, runs, held, limits]
  apply add_right_cancel (b := (run.channel.map s.limits.holding).sum)
  rw [show ∀ a b c d e : Holding, a + (b + c + d) + e = a + b + (c + e) + d by intros; abel, moved]
  rw [show ∀ a b c d e : Holding, a + b + (c + d) + e = (a + d) + b + c + e by intros; abel, stock]
  abel

/-- Channels and receiver exchange messages, and the workers go on as before. -/
theorem books_of_receiver (workers : t.workers = s.workers) (limits : t.limits = s.limits)
    (parts : t.stock + (t.runs.map fun run => (run.channel.map s.limits.holding).sum).sum +
        (t.held.map s.limits.holding).sum =
      s.stock + (s.runs.map fun run => (run.channel.map s.limits.holding).sum).sum +
        (s.held.map s.limits.holding).sum) : t.books = s.books := by
  simp only [books, holdings, gather, workers, limits]
  rw [show ∀ a b c d : Holding, a + (b + c + d) = a + c + d + b by intros; abel, parts]
  abel

end Books

/-- From one state to another the messages `pulled` left the queue, and all that the books say more
of is these. -/
structure Conserves (pulled : List BusMessage) (s t : Intake) : Prop where
  limits : t.limits = s.limits
  queue : s.queue.messages = pulled ++ t.queue.messages
  books : t.books = s.books + BusMessage.names pulled

section Changes

variable {s t u : Intake} {i r : Nat} {w v : Worker} {pulled pulled' : List BusMessage}
  {change : IntakeRun → IntakeRun}

/-- Nothing leaves the queue, and the books stay as they are. -/
theorem Conserves.of_books (limits : t.limits = s.limits)
    (queue : t.queue.messages = s.queue.messages) (books : t.books = s.books) :
    Conserves [] s t :=
  ⟨limits, queue.symm, by rw [books, BusMessage.names_nil, add_zero]⟩

theorem Conserves.refl (s : Intake) : Conserves [] s s := .of_books rfl rfl rfl

theorem Conserves.trans (first : Conserves pulled s t) (second : Conserves pulled' t u) :
    Conserves (pulled ++ pulled') s u where
  limits := second.limits.trans first.limits
  queue := by rw [first.queue, second.queue, List.append_assoc]
  books := by
    rw [second.books, first.books, BusMessage.names_append, add_assoc]

/-- One worker goes on to another phase and keeps what it has. -/
theorem conserves_of_set (h : s.workers[i]? = some w) (workers : t.workers = s.workers.set i v)
    (runs : t.runs = s.runs) (held : t.held = s.held) (limits : t.limits = s.limits)
    (queue : s.queue.messages = pulled ++ t.queue.messages)
    (stock : t.stock + v.phase.holding s.limits =
      s.stock + w.phase.holding s.limits + BusMessage.names pulled) :
    Conserves pulled s t :=
  ⟨limits, queue, books_of_set h workers runs held limits stock⟩

/-- A worker goes on to another phase, and nothing else happens. -/
theorem setPhase_conserves (h : s.workers[i]? = some w) (phase : Phase)
    (same : phase.holding s.limits = w.phase.holding s.limits) :
    Conserves [] s (s.setPhase i phase) := by
  refine conserves_of_set h (workers_setPhase h phase) rfl rfl rfl rfl ?_
  show s.stock + phase.holding s.limits = _
  rw [same, BusMessage.names_nil, add_zero]

/-! ### Channels -/

theorem handBack_limits (s : Intake) (ms : List BusMessage) :
    (s.handBack ms).limits = s.limits ∧ (s.handBack ms).held = s.held := by
  induction ms generalizing s with
  | nil => exact ⟨rfl, rfl⟩
  | cons m rest ih => exact ih (s.settle m false)

@[simp] theorem stock_freeMessage (s : Intake) : s.freeMessage.stock = s.stock + (1, 0, 0) := by
  simp [stock, freeMessage]

@[simp] theorem stock_settle (s : Intake) (m : BusMessage) (isAcked : Bool) :
    (s.settle m isAcked).stock = s.stock + s.limits.holding m := by
  simp [stock, settle, settleLight, freeMessage, Limits.holding, ← Multiset.coe_add]

@[simp] theorem stock_settleLight (s : Intake) (m : BusMessage) (isAcked : Bool) :
    (s.settleLight m isAcked).stock = s.stock + (1, 0, {m.id}) := by
  simp [stock, settleLight, freeMessage, ← Multiset.coe_add]

/-- What messages keep that are handed back is in the stock from then on. -/
theorem stock_handBack (s : Intake) (ms : List BusMessage) :
    (s.handBack ms).stock = s.stock + (ms.map s.limits.holding).sum := by
  induction ms generalizing s with
  | nil => simp [handBack]
  | cons m rest ih =>
    have later := ih (s.settle m false)
    rw [show s.handBack (m :: rest) = (s.settle m false).handBack rest from rfl, later,
      stock_settle, List.map_cons, List.sum_cons, add_assoc]
    rfl

/-- A run is told something and keeps its channel. -/
theorem setRun_conserves (s : Intake) (r : Nat)
    (keeps : ∀ run : IntakeRun, (change run).channel = run.channel) :
    Conserves [] s (s.setRun r change) := by
  cases h : s.runs[r]? with
  | none =>
    have same : s.setRun r change = s := by
      rw [setRun, List.modify_eq_self (List.getElem?_eq_none_iff.1 h)]
    rw [same]
    exact .refl s
  | some run =>
    have books : (s.setRun r change).books = s.books :=
      books_of_setRun h rfl rfl rfl rfl (by rw [keeps]; rfl)
    exact .of_books rfl rfl books

/-- A run hands back all that is in its channel. -/
theorem emptied_conserves {run : IntakeRun} (h : s.runs[r]? = some run)
    (empties : (change run).channel = []) :
    Conserves [] s ((s.handBack run.channel).setRun r change) := by
  obtain ⟨queue, workers, runs⟩ := handBack_frame s run.channel
  obtain ⟨limits, held⟩ := handBack_limits s run.channel
  have books : ((s.handBack run.channel).setRun r change).books = s.books := by
    refine books_of_setRun h (congrArg (·.modify r change) runs) workers held limits ?_
    show (s.handBack run.channel).stock + _ = _
    rw [stock_handBack, empties]
    simp
  exact .of_books limits (congrArg BusQueue.messages queue) books

theorem sweep_conserves (s : Intake) (r : Nat) : Conserves [] s (s.sweep r) := by
  unfold sweep
  split
  next run h =>
    split
    · exact emptied_conserves h rfl
    · exact .refl s
  next => exact .refl s

theorem close_conserves (s : Intake) (r : Nat) : Conserves [] s (s.close r) := by
  unfold close
  split
  next run h => exact emptied_conserves h rfl
  next => exact .refl s

theorem abandon_conserves (s : Intake) (r : Nat) : Conserves [] s (s.abandon r) := by
  have told : Conserves [] s
      (s.setRun r fun run => { run with isClosed := true, isAbandoned := true }) :=
    setRun_conserves s r fun _ => rfl
  exact told.trans (sweep_conserves _ r)

/-- The receiver takes a message with all that it keeps. -/
theorem receive_conserves {m : BusMessage} (h : s.receive? r = some (m, t)) : Conserves [] s t := by
  unfold receive? at h
  cases hrun : s.runs[r]? with
  | none => simp [hrun] at h
  | some run =>
    simp only [hrun, Option.bind_eq_bind, Option.bind_some] at h
    split at h
    · cases h
    next head rest channel =>
      split at h
      · cases h
      · obtain ⟨rfl, rfl⟩ : head = m ∧ _ = t := by simpa using h
        have moved := sum_modify (fun run => (run.channel.map s.limits.holding).sum) hrun
          fun run => { run with channel := rest }
        simp only [channel, List.map_cons, List.sum_cons] at moved
        refine .of_books rfl rfl (books_of_receiver rfl rfl ?_)
        simp only [setRun, List.map_append, List.sum_append, List.map_singleton, List.sum_singleton]
        apply add_right_cancel (b := (rest.map s.limits.holding).sum)
        rw [show ∀ a b c d e : Holding, a + b + (c + d) + e = a + (b + (d + e)) + c by
          intros; abel, moved]
        show s.stock + _ + _ = _
        abel

/-- The receiver settles a message, and what it kept is in the stock from then on. -/
theorem settleHeld_conserves {id : String} {isAcked : Bool} (h : s.settleHeld? id isAcked = some t) :
    Conserves [] s t := by
  unfold settleHeld? at h
  cases found : s.held.find? (·.id == id) with
  | none => simp [found] at h
  | some m =>
    obtain rfl := by simpa [found] using h
    obtain ⟨named, before, after, split, others⟩ := List.find?_eq_some_iff_append.1 found
    have left : s.held.eraseP (·.id == id) = before ++ after := by
      rw [split, List.eraseP_append_right _ (by simpa using others)]
      simp [named]
    refine .of_books rfl rfl (books_of_receiver rfl rfl ?_)
    rw [stock_settle]
    show s.stock + _ + _ + ((s.held.eraseP (·.id == id)).map _).sum = _
    rw [left, split]
    simp only [List.map_append, List.map_cons, List.sum_append, List.sum_cons]
    show s.stock + s.limits.holding m + (s.runs.map _).sum + _ = _
    abel

/-! ### Workers -/

/-- A notice changes the books of nobody, whoever gets it. -/
theorem giveNotice_conserves (s : Intake) : Conserves [] s s.giveNotice := by
  simp only [giveNotice]
  split
  next i found =>
    obtain ⟨bound, listens, -⟩ := List.findIdx?_eq_some_iff_getElem.1 found
    refine setPhase_conserves (List.getElem?_eq_getElem bound) _ ?_
    cases phase : s.workers[i].phase with
    | listening place isNoticed => rfl
    | _ => simp [phase, Phase.listeningPlace?] at listens
  next => exact .of_books rfl rfl rfl

/-- A worker leaves; what it kept is in the stock already. -/
theorem leave_conserves (s' : Intake) (h : s.workers[i]? = some w) (workers : s'.workers = s.workers)
    (runs : s'.runs = s.runs) (held : s'.held = s.held) (limits : s'.limits = s.limits)
    (queue : s'.queue.messages = s.queue.messages)
    (stock : s'.stock = s.stock + w.phase.holding s.limits) : Conserves [] s (s'.leave i w.run) := by
  have h' : s'.workers[i]? = some w := by rwa [workers]
  have gone : Conserves [] s (s'.setPhase i .gone) := by
    refine conserves_of_set (v := { w with phase := .gone }) h
      ((workers_setPhase h' .gone).trans (by rw [workers])) runs held limits queue.symm ?_
    show s'.stock + _ = _
    rw [stock, Phase.holding_gone, BusMessage.names_nil]
  exact gone.trans (sweep_conserves _ w.run)

/-- A worker leaves whose run is cancelled. -/
theorem quit_conserves (h : s.workers[i]? = some w) (next : s.quit i w = some t) :
    Conserves [] s t := by
  unfold quit at next
  split at next
  case h_1 place phase =>
    cases next
    exact leave_conserves s h rfl rfl rfl rfl rfl (by simp [phase])
  case h_2 phase | h_3 place phase | h_4 deadline phase =>
    cases next
    exact leave_conserves s.freeMessage h rfl rfl rfl rfl rfl (by simp [phase])
  case h_5 place phase =>
    cases next
    have gone : Conserves [] s (s.freeMessage.setPhase i .gone) := by
      refine conserves_of_set h (workers_setPhase (s := s.freeMessage) h .gone) rfl rfl rfl rfl ?_
      show s.freeMessage.stock + _ = _
      simp [phase]
    exact (gone.trans (giveNotice_conserves _)).trans (sweep_conserves _ w.run)
  case h_6 m place phase =>
    cases next
    exact leave_conserves (s.settleLight m false) h rfl rfl rfl rfl rfl (by simp [phase])
  case h_7 m place phase | h_8 m phase =>
    cases next
    exact leave_conserves (s.settle m false) h rfl rfl rfl rfl rfl (by simp [phase])
  case h_9 | h_10 => cases next

/-- A worker pulls. It keeps its message permit, with a message or without. -/
theorem pull_conserves (h : s.workers[i]? = some w) (phase : w.phase = .pulling) :
    ∃ pulled, Conserves pulled s (s.pull i w) := by
  simp only [pull, BusQueue.pull]
  by_cases failing : s.queue.failures > 0
  · simp only [failing, if_true]
    refine ⟨[], conserves_of_set h rfl rfl rfl rfl rfl ?_⟩
    show s.stock + _ = _
    simp [phase]
  · simp only [failing, if_false]
    cases messages : s.queue.messages with
    | cons m rest =>
      refine ⟨[m], conserves_of_set h rfl rfl rfl rfl messages ?_⟩
      show s.stock + _ = _
      rw [phase, add_assoc]
      rfl
    | nil =>
      cases s.queue.staysOpen with
      | false =>
        exact ⟨[], leave_conserves
          { s.freeMessage with health := { s.health with status := .unhealthy } } h rfl rfl rfl rfl
          rfl ((stock_freeMessage s).trans (by rw [phase]; rfl))⟩
      | true =>
        cases noticed : s.queue.hasNotice with
        | true => exact ⟨[], .of_books rfl (by simp [messages]) (by simp; rfl)⟩
        | false =>
          have joined : Conserves [] s (s.setPhase i (.listening s.nextPlace false)) :=
            setPhase_conserves h _ (by rw [phase]; rfl)
          exact ⟨[], by simpa [noticed] using { joined with }⟩

/-- A worker takes permits that are free. -/
theorem take_conserves (h : s.workers[i]? = some w) (phase : Phase) (fm fb : Nat)
    (stock : (fm, fb, Multiset.ofList (s.settlements.map (·.id))) + phase.holding s.limits =
      s.stock + w.phase.holding s.limits) :
    Conserves [] s { s.setPhase i phase with freeMessages := fm, freeBytes := fb } := by
  refine conserves_of_set h (workers_setPhase h phase) rfl rfl rfl rfl ?_
  rw [BusMessage.names_nil, add_zero]
  exact stock

/-- A worker puts its message into the channel, with all that it keeps. -/
theorem send_conserves {run : IntakeRun} {m : BusMessage} (h : s.workers[i]? = some w)
    (hrun : s.runs[w.run]? = some run) (phase : w.phase = .sending m) :
    Conserves [] s ((s.setPhase i (.asking none)).setRun w.run fun run =>
      { run with channel := run.channel ++ [m] }) := by
  have given := sum_set (fun w => w.phase.holding s.limits) h { w with phase := .asking none }
  have taken := sum_modify (fun run => (run.channel.map s.limits.holding).sum) hrun
    fun run => { run with channel := run.channel ++ [m] }
  simp only [phase, Phase.holding_sending, Phase.holding_asking, add_zero] at given
  simp only [List.map_append, List.sum_append, List.map_singleton, List.sum_singleton] at taken
  refine .of_books rfl rfl ?_
  show s.stock + (((s.setPhase i (.asking none)).workers.map fun w => w.phase.holding s.limits).sum +
    ((s.runs.modify w.run _).map fun run => (run.channel.map s.limits.holding).sum).sum +
    (s.held.map s.limits.holding).sum) = s.books
  rw [workers_setPhase h, books, holdings, gather, ← given]
  apply add_right_cancel (b := (run.channel.map s.limits.holding).sum)
  rw [show ∀ a b c d e : Holding, a + (b + c + d) + e = a + b + (c + e) + d by intros; abel, taken]
  abel

/-- What a worker does that goes on with its task. -/
theorem proceed_conserves {run : IntakeRun} (h : s.workers[i]? = some w)
    (hrun : s.runs[w.run]? = some run) (next : s.proceed i w run = some t) :
    ∃ pulled, Conserves pulled s t := by
  unfold proceed at next
  split at next
  case h_1 place phase =>
    split at next
    next free =>
      cases next
      have some_free : 0 < s.freeMessages := by
        simp only [Bool.and_eq_true, decide_eq_true_eq] at free
        exact free.1
      refine ⟨[], take_conserves h .pulling (s.freeMessages - 1) s.freeBytes ?_⟩
      simp [phase, stock]
      omega
    next =>
      split at next <;> cases next
      have joined := setPhase_conserves h (.asking (some s.nextPlace)) (by rw [phase]; rfl)
      exact ⟨[], { joined with }⟩
  case h_2 phase =>
    cases next
    exact pull_conserves h phase
  case h_3 place isNoticed phase =>
    split at next <;> cases next
    exact ⟨[], setPhase_conserves h .pulling (by rw [phase]; rfl)⟩
  case h_4 deadline phase =>
    split at next <;> cases next
    refine ⟨[], take_conserves h (.asking none) (s.freeMessages + 1) s.freeBytes ?_⟩
    simp [phase, stock]
  case h_5 m place phase =>
    split at next
    next free =>
      cases next
      have enough : s.limits.weight m ≤ s.freeBytes := by
        simp only [Bool.and_eq_true, decide_eq_true_eq] at free
        exact free.1
      refine ⟨[], take_conserves h (.pacing m none) s.freeMessages
        (s.freeBytes - s.limits.weight m) ?_⟩
      simp [phase, stock, Limits.holding]
      omega
    next =>
      split at next <;> cases next
      have joined := setPhase_conserves h (.weighing m (some s.nextPlace)) (by rw [phase]; rfl)
      exact ⟨[], { joined with }⟩
  case h_6 m place phase =>
    split at next
    · cases next
      unfold takeTurn
      split
      · exact ⟨[], setPhase_conserves h (.resting m) (by rw [phase]; rfl)⟩
      · have turned := setPhase_conserves h (.sending m) (by rw [phase]; rfl)
        exact ⟨[], { turned with }⟩
    · split at next <;> cases next
      have joined := setPhase_conserves h (.pacing m (some s.nextPlace)) (by rw [phase]; rfl)
      exact ⟨[], { joined with }⟩
  case h_7 m phase =>
    split at next <;> cases next
    have turned := setPhase_conserves h (.sending m) (by rw [phase]; rfl)
    exact ⟨[], { turned with }⟩
  case h_8 m phase =>
    split at next
    · cases next
      exact ⟨[], leave_conserves (s.settle m false) h rfl rfl rfl rfl rfl (by simp [phase])⟩
    · split at next <;> cases next
      exact ⟨[], send_conserves h hrun phase⟩
  case h_9 => cases next

/-- Every step of a worker keeps the books. -/
theorem work_conserves (next : s.work? i = some t) : ∃ pulled, Conserves pulled s t := by
  unfold work? at next
  cases h : s.workers[i]? with
  | none => simp [h] at next
  | some w =>
    cases hrun : s.runs[w.run]? with
    | none => simp [h, hrun] at next
    | some run =>
      simp only [h, hrun, Option.bind_eq_bind, Option.bind_some] at next
      rcases ite_eq_iff.1 next with ⟨-, leaves⟩ | ⟨-, stays⟩
      · exact ⟨[], quit_conserves h leaves⟩
      · exact proceed_conserves h hrun stays

/-- A new run and its workers have nothing. -/
theorem start_conserves (s : Intake) : Conserves [] s s.start := by
  refine .of_books rfl rfl ?_
  show s.stock + s.start.holdings = s.stock + s.holdings
  simp [holdings, gather, start]

end Changes

end Intake

end FlagAlerts
