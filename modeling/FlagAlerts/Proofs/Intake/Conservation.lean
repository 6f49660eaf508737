import FlagAlerts.Proofs.Intake.Permits
import Mathlib.Algebra.Order.BigOperators.Group.List
import Mathlib.Algebra.Order.Group.Nat

/-!
# Permits are conserved

On every course of an intake, with any number of runs one after another or at the same time, the
permits that are free and those that are held are together as many as there were at first, and the
messages that were pulled are those that are settled and those that are not. So neither limit is
ever exceeded, and nothing leaks.
-/

namespace FlagAlerts.Intake

/-- Something that may happen to an intake whose workers need not be prompt. -/
inductive Move where
  | act (a : IntakeAction)
  /-- A worker goes on with its task without another look at whether its run is cancelled. -/
  | overrun (worker : Nat)
  /-- Time goes by, whoever waits. -/
  | lag (ms : Nat)
  /-- From now on that many pulls fail, and whoever finds the queue empty waits or finds it closed. -/
  | turn (failures : Nat) (staysOpen : Bool)

/-- A worker goes on with its task, if it can. -/
def overrun? (s : Intake) (i : Nat) : Option Intake := do
  let w ← s.workers[i]?
  let run ← s.runs[w.run]?
  s.proceed i w run

/-- The intake after a move; none if the move is not possible. -/
def move? (s : Intake) : Move → Option Intake
  | .act a => s.step? a
  | .overrun i => s.overrun? i
  | .lag ms => some { s with now := s.now + ms }
  | .turn failures staysOpen =>
    some { s with queue := { s.queue with failures := failures, staysOpen := staysOpen } }

/-- The messages that left the queue from one state to another. -/
def departed (s t : Intake) : List BusMessage :=
  s.queue.messages.take (s.queue.messages.length - t.queue.messages.length)

/-- What can come of an intake, with the messages that were pulled up to then. -/
inductive Course (limits : Limits) (queue : BusQueue) : List BusMessage → Intake → Prop where
  | initial : Course limits queue [] (.ofLimits limits queue)
  | move {pulled : List BusMessage} {s t : Intake} (mv : Move) (before : Course limits queue pulled s)
    (next : s.move? mv = some t) : Course limits queue (pulled ++ s.departed t) t

/-- The pulled messages and the intake after moves, one after another; none if one is not possible. -/
def follow? (pulled : List BusMessage) (s : Intake) : List Move → Option (List BusMessage × Intake)
  | [] => some (pulled, s)
  | mv :: rest => (s.move? mv).bind fun t => follow? (pulled ++ s.departed t) t rest

section Courses

variable {limits : Limits} {queue : BusQueue} {pulled : List BusMessage} {s t : Intake}

/-- A course goes on with moves that are possible. -/
theorem Course.follow {pulled' : List BusMessage} {moves : List Move}
    (course : Course limits queue pulled s) (h : follow? pulled s moves = some (pulled', t)) :
    Course limits queue pulled' t := by
  induction moves generalizing pulled s with
  | nil =>
    cases h
    exact course
  | cons mv rest ih =>
    obtain ⟨u, moved, h⟩ := Option.bind_eq_some_iff.1 h
    exact ih (course.move mv moved) h

/-- Every state that prompt workers can get an intake into lies on a course. -/
theorem Reachable.course (h : Reachable limits queue s) : ∃ pulled, Course limits queue pulled s := by
  induction h with
  | initial => exact ⟨[], .initial⟩
  | step a _ next ih =>
    obtain ⟨pulled, course⟩ := ih
    exact ⟨_, course.move (.act a) next⟩

theorem Conserves.departed (h : Conserves pulled s t) : s.departed t = pulled := by
  rw [Intake.departed, h.queue, List.length_append, Nat.add_sub_cancel, List.take_left]

/-- A move changes no limit, and the books say no more than before but for what was pulled. -/
def Keeps (s t : Intake) : Prop :=
  t.limits = s.limits ∧ t.books = s.books + BusMessage.names (s.departed t)

theorem Conserves.keeps (h : Conserves pulled s t) : Keeps s t :=
  ⟨h.limits, by rw [h.departed]; exact h.books⟩

/-- A message that arrives is in nobody's books yet. -/
theorem push_keeps (s : Intake) (attributes : List (String × String)) (data : List UInt8) :
    Keeps s (s.push attributes data) := by
  have noticed := giveNotice_conserves { s with queue := s.queue.push attributes data }
  refine ⟨noticed.limits, ?_⟩
  have none : s.departed (s.push attributes data) = [] := by
    have longer : (s.push attributes data).queue.messages =
        s.queue.messages ++ [⟨s.queue.nextId, attributes, data⟩] := noticed.queue.symm
    rw [departed, longer, List.length_append, Nat.sub_eq_zero_of_le (Nat.le_add_right _ _),
      List.take_zero]
  rw [none]
  exact noticed.books

/-- Every move keeps the books. -/
theorem move_keeps {mv : Move} (next : s.move? mv = some t) : Keeps s t := by
  cases mv with
  | lag ms | turn failures staysOpen =>
    cases next
    exact (Conserves.of_books rfl rfl rfl).keeps
  | overrun i =>
    simp only [move?, overrun?, Option.bind_eq_bind, Option.bind_eq_some_iff] at next
    obtain ⟨w, hw, run, hrun, next⟩ := next
    obtain ⟨pulled, kept⟩ := proceed_conserves hw hrun next
    exact kept.keeps
  | act a =>
    cases a with
    | push attributes data =>
      cases next
      exact push_keeps s attributes data
    | failPull =>
      cases next
      exact (Conserves.of_books rfl rfl rfl).keeps
    | start =>
      cases next
      exact (start_conserves s).keeps
    | cancel r =>
      simp only [move?, step?] at next
      split at next <;> cases next
      have told : Conserves [] s (s.cancel r) := setRun_conserves s r fun _ => rfl
      exact told.keeps
    | receive r =>
      obtain ⟨⟨m, u⟩, received, rfl⟩ := Option.map_eq_some_iff.1 next
      exact (receive_conserves received).keeps
    | settle id isAcked => exact (settleHeld_conserves next).keeps
    | close r =>
      simp only [move?, step?] at next
      split at next <;> cases next
      exact (close_conserves s r).keeps
    | abandon r =>
      simp only [move?, step?] at next
      split at next <;> cases next
      exact (abandon_conserves s r).keeps
    | work i =>
      obtain ⟨pulled, kept⟩ := work_conserves next
      exact kept.keeps
    | pass ms =>
      simp only [move?, step?, pass?] at next
      split at next <;> cases next
      exact (Conserves.of_books rfl rfl rfl).keeps

/-- On every course all permits are in the books, and all messages that were pulled. -/
theorem Course.books (course : Course limits queue pulled s) :
    s.limits = limits ∧
      s.books = (limits.messages, limits.bytes, Multiset.ofList (pulled.map (·.id))) := by
  induction course with
  | initial => exact ⟨rfl, by simp [Intake.books, holdings, gather, stock, ofLimits]⟩
  | move mv _ next ih =>
    obtain ⟨same, books⟩ := move_keeps next
    refine ⟨same.trans ih.1, ?_⟩
    rw [books, ih.2, List.map_append, ← Multiset.coe_add]
    simp [BusMessage.names]

/-! ## Limits -/

/-- A sum over all places is at most another if it is so at every place. -/
theorem gather_le (s : Intake) {phase phase' : Phase → Nat} {message message' : BusMessage → Nat}
    (phases : ∀ p, phase p ≤ phase' p) (messages : ∀ m, message m ≤ message' m) :
    s.gather phase message ≤ s.gather phase' message' := by
  have workers := List.sum_le_sum (l := s.workers) fun w _ => phases w.phase
  have channels := List.sum_le_sum (l := s.runs) fun run _ =>
    List.sum_le_sum (l := run.channel) fun m _ => messages m
  have held := List.sum_le_sum (l := s.held) fun m _ => messages m
  exact Nat.add_le_add (Nat.add_le_add workers channels) held

/-- Where all workers have left, a sum over all places does not depend on what workers have. -/
theorem gather_of_gone {M : Type} [AddCommMonoid M] (gone : ∀ w ∈ s.workers, w.phase = .gone)
    (phase phase' : Phase → M) (same : phase .gone = phase' .gone) (message : BusMessage → M) :
    s.gather phase message = s.gather phase' message := by
  have workers : s.workers.map (fun w => phase w.phase) = s.workers.map fun w => phase' w.phase :=
    List.map_congr_left fun w hw => by rw [gone w hw, same]
  rw [gather, gather, workers]

/-- The messages that are not settled, as a sum. -/
theorem card_unsettled (s : Intake) :
    s.unsettled.card = s.gather (fun p => p.load.card) fun _ => 1 :=
  gather_hom Multiset.cardHom s Phase.load fun m => {m}

/-- Every message that is not settled has a message permit. -/
theorem card_unsettled_le (s : Intake) : s.unsettled.card ≤ s.heldMessagePermits := by
  rw [card_unsettled]
  apply gather_le
  · intro p
    cases p <;> simp [Phase.load, Phase.messagePermits]
  · intro m
    exact Nat.le_refl 1

/-- Where all workers have left, permits are held for messages only. -/
theorem held_of_gone (gone : ∀ w ∈ s.workers, w.phase = .gone) (settled : s.unsettled = 0) :
    s.heldMessagePermits = 0 ∧ s.heldBytePermits = 0 := by
  have messages : s.heldMessagePermits = s.unsettled.card := by
    rw [card_unsettled]
    exact gather_of_gone gone Phase.messagePermits (fun p => p.load.card) rfl _
  have weighed : s.weighed = s.unsettled := gather_of_gone gone Phase.weighed Phase.load rfl _
  rw [messages, heldBytePermits, weighed, settled]
  exact ⟨rfl, rfl⟩

end Courses

/-- A number kept between two others. -/
def clamp (n least greatest : Nat) : Nat := max least (min n greatest)

/-- What the settings of an intake promise of a state that it is in when the messages `pulled` have
been pulled. The byte permits that a message takes are its size, but at least one and at most all. -/
structure Conserved (c : PullerConfig) (pulled : List BusMessage) (s : Intake) : Prop where
  settled : Multiset.ofList (pulled.map (·.id)) =
    Multiset.ofList (s.settlements.map (·.id)) + s.unsettled.map (·.id)
  messages : s.unsettled.card ≤ max 1 c.maxOutstandingMessages.toNat
  bytes : (s.weighed.map fun m =>
      clamp m.size 1 (clamp c.maxOutstandingBytes.toNat 1 maxUInt32)).sum ≤
    clamp c.maxOutstandingBytes.toNat 1 maxUInt32
  messagePermits : s.freeMessages + s.heldMessagePermits = max 1 c.maxOutstandingMessages.toNat
  bytePermits : s.freeBytes + s.heldBytePermits = clamp c.maxOutstandingBytes.toNat 1 maxUInt32
  idle : (∀ w ∈ s.workers, w.phase = .gone) →
    (pulled.map (·.id)).Perm (s.settlements.map (·.id)) →
      s.freeMessages = max 1 c.maxOutstandingMessages.toNat ∧
        s.freeBytes = clamp c.maxOutstandingBytes.toNat 1 maxUInt32

/-- Settings that are accepted have a worker, and their limits follow from them. -/
theorem eq_of_accepted {c : PullerConfig} {limits : Limits}
    (accepted : Limits.ofConfig? c = .ok limits) :
    c.concurrency ≠ 0 ∧ limits = {
      workers := c.concurrency.toNat
      messages := max c.maxOutstandingMessages.toNat 1
      bytes := max (min c.maxOutstandingBytes.toNat maxUInt32) 1
      interval := 1000000000 / c.maxMessagesPerSecond.toNat } := by
  unfold Limits.ofConfig? at accepted
  by_cases workers : c.concurrency = 0
  · simp [workers, bind, Except.bind, throw, throwThe, MonadExceptOf.throw] at accepted
  by_cases rate : c.maxMessagesPerSecond = 0
  · simp [workers, rate, bind, Except.bind, throw, throwThe, MonadExceptOf.throw] at accepted
  by_cases many : max c.maxOutstandingMessages.toNat 1 > Limits.maxPermits
  · simp [workers, rate, many, bind, Except.bind, throw, throwThe, MonadExceptOf.throw] at accepted
  · simp only [workers, rate, many, if_false, bind, Except.bind, pure, Except.pure,
      Except.ok.injEq] at accepted
    exact ⟨workers, accepted.symm⟩

/-- The limits that settings stand for, if they are accepted. -/
theorem limits_of_accepted {c : PullerConfig} {limits : Limits}
    (accepted : Limits.ofConfig? c = .ok limits) :
    limits.messages = max 1 c.maxOutstandingMessages.toNat ∧
      limits.bytes = clamp c.maxOutstandingBytes.toNat 1 maxUInt32 := by
  obtain ⟨-, rfl⟩ := eq_of_accepted accepted
  exact ⟨Nat.max_comm _ _, Nat.max_comm _ _⟩

/-- On every course of an intake with accepted settings neither limit is exceeded, no permit is lost,
and all are free again once the workers have left and every message is settled. -/
theorem permits_are_conserved {c : PullerConfig} {limits : Limits} {queue : BusQueue}
    {pulled : List BusMessage} {s : Intake} (accepted : Limits.ofConfig? c = .ok limits)
    (course : Course limits queue pulled s) : Conserved c pulled s := by
  obtain ⟨messages, bytes⟩ := limits_of_accepted accepted
  obtain ⟨same, books⟩ := course.books
  have messagePermits : s.freeMessages + s.heldMessagePermits =
      max 1 c.maxOutstandingMessages.toNat := by
    rw [← messages, ← holdings_fst]
    exact congrArg (·.1) books
  have bytePermits : s.freeBytes + s.heldBytePermits =
      clamp c.maxOutstandingBytes.toNat 1 maxUInt32 := by
    rw [← bytes, ← holdings_bytes]
    exact congrArg (·.2.1) books
  have settled : Multiset.ofList (pulled.map (·.id)) =
      Multiset.ofList (s.settlements.map (·.id)) + s.unsettled.map (·.id) := by
    rw [← holdings_names]
    exact (congrArg (·.2.2) books).symm
  exact {
    settled := settled
    messages := by
      have held := card_unsettled_le s
      omega
    bytes := by
      have weights : (s.weighed.map fun m => clamp m.size 1 limits.bytes).sum =
          s.heldBytePermits := by
        rw [heldBytePermits, same]
        rfl
      rw [← bytes] at bytePermits ⊢
      omega
    messagePermits := messagePermits
    bytePermits := bytePermits
    idle := by
      intro gone all
      have none : s.unsettled.map (·.id) = 0 := by
        rw [Multiset.coe_eq_coe.2 all] at settled
        exact left_eq_add.1 settled
      obtain ⟨noMessages, noBytes⟩ := held_of_gone gone (Multiset.map_eq_zero.1 none)
      omega }

/-- Settings for one message at a time and for two bytes. -/
def narrow : PullerConfig where
  maxOutstandingMessages := 0
  maxOutstandingBytes := 2
  maxMessagesPerSecond := 1000

/-- The limits of the narrow settings. -/
def narrowLimits : Limits := ⟨1, 1, 2, 1000000⟩

/-- A message of five bytes is pulled, delivered and received. -/
def narrowMoves : List Move :=
  [.act .start, .act (.push [] [1, 2, 3, 4, 5]), .act (.work 0), .act (.work 0), .act (.work 0),
    .act (.work 0), .act (.work 0), .act (.receive 0)]

/-- A message that is too large takes all byte permits, and no more than there are. -/
theorem large_message_takes_all_permits :
    Limits.ofConfig? narrow = .ok narrowLimits ∧
      ∃ pulled s, Course narrowLimits {} pulled s ∧ s.freeMessages = 0 ∧ s.freeBytes = 0 ∧
        Conserved narrow pulled s := by
  have accepted : Limits.ofConfig? narrow = .ok narrowLimits := by decide +kernel
  have outcome : (follow? [] (.ofLimits narrowLimits {}) narrowMoves).map (fun x =>
      (x.2.freeMessages, x.2.freeBytes)) = some (0, 0) := by decide +kernel
  obtain ⟨⟨pulled, s⟩, followed, same⟩ := Option.map_eq_some_iff.1 outcome
  obtain ⟨messages, bytes⟩ := Prod.mk.inj same
  have course : Course narrowLimits {} pulled s := Course.initial.follow followed
  exact ⟨accepted, pulled, s, course, messages, bytes, permits_are_conserved accepted course⟩

end FlagAlerts.Intake
