import FlagAlerts.Proofs.Consumer.Closing
import FlagAlerts.Proofs.Consumer.Liveness
import FlagAlerts.Proofs.Consumer.Outcome
import FlagAlerts.Proofs.Intake.Conservation
import FlagAlerts.Proofs.Service.Building

/-!
# The numbers in checked settings

The checks keep zero out of the settings, and allow any number above it. Whatever the number of bytes,
the gate for bytes can count them, and every message fits through it. Two other numbers may be more than
their users can bear: the number of messages, which the gate for messages has to count, and the time
limit of a message, whose end a clock has to tell. The first is found out when the intake is set up, the
second when a message is taken, whose run breaks then.
-/

namespace FlagAlerts

/-- The gates of an intake can count their permits, every message can get the permits that it needs, and
no permit comes back that was not there before. -/
structure Limits.Countable (l : Limits) : Prop where
  messages : 1 ≤ l.messages ∧ l.messages ≤ maxPermits
  bytes : 1 ≤ l.bytes ∧ l.bytes ≤ maxPermits
  weight : ∀ m, 1 ≤ l.weight m ∧ l.weight m ≤ l.bytes ∧ l.weight m ≤ maxUInt32
  free : ∀ {queue pulled s}, Intake.Course l queue pulled s →
    s.freeMessages ≤ l.messages ∧ s.freeBytes ≤ l.bytes

namespace Consumer

/-- Whether an action cuts a run off from outside. -/
def Action.cutsOff : Action → Bool
  | .abort _ => true
  | _ => false

/-- The states that a consumer can get into while nobody cuts off its runs from outside. -/
inductive Uncut (start : Consumer) : Consumer → Prop where
  | initial : Uncut start start
  | step {c d : Consumer} (a : Action) (before : Uncut start c) (next : c.step? a = some d)
    (spared : a.cutsOff = false) : Uncut start d

/-- The consumer after actions one after another; none if one is not possible or cuts off a run. -/
def followUncut? (c : Consumer) : List Action → Option Consumer
  | [] => some c
  | a :: rest => if a.cutsOff then none else (c.step? a).bind fun d => followUncut? d rest

/-- What a clock does to the runs of a consumer whose messages may take so many seconds. -/
structure MindsClock (seconds : Nat) (c : Consumer) : Prop where
  /-- No run breaks as long as a clock can tell the deadlines. -/
  broken : ∀ run ∈ c.runs, run.phase = .aborted →
    Handler.lastSecond < c.intake.now / 1000 + seconds
  /-- No message is handled whose deadline a clock cannot tell. -/
  begun : ∀ run ∈ c.runs, ∀ m start finish, run.phase = .handling m start finish →
    start / 1000 + seconds ≤ Handler.lastSecond
  /-- A run that is not over takes the message that it receives, and breaks at it exactly if a clock
  cannot tell the deadline. -/
  takes : ∀ i run m s, c.runs[i]? = some run → run.phase = .waiting → c.isOver run = false →
    c.intake.receive? run.run = some (m, s) →
      ∃ d run', c.poll? i = some d ∧ d.runs[i]? = some run' ∧
        run'.phase =
          if c.intake.now / 1000 + seconds ≤ Handler.lastSecond then
            .handling m c.intake.now (c.intake.now + (c.handler.handle m).duration)
          else .aborted

end Consumer

/-! ## The gates -/

section Gates

variable {l : Limits} {c : PullerConfig}

/-- The byte permits of a message are as many as there are at most. -/
theorem Limits.weight_mem (positive : 1 ≤ l.bytes) (m : BusMessage) :
    1 ≤ l.weight m ∧ l.weight m ≤ l.bytes := by
  unfold weight
  omega

/-- The limits of settings can be counted. -/
theorem Limits.countable_of_accepted (accepted : ofConfig? c = .ok l)
    (fits : c.maxOutstandingMessages.toNat ≤ maxPermits) : l.Countable := by
  obtain ⟨-, same⟩ := Intake.eq_of_accepted accepted
  have messages : 1 ≤ l.messages ∧ l.messages ≤ maxPermits := by
    have least : 1 ≤ maxPermits := by decide
    simp only [same]
    omega
  have bytes : 1 ≤ l.bytes ∧ l.bytes ≤ maxUInt32 := by
    have least : 1 ≤ maxUInt32 := by decide
    simp only [same]
    omega
  exact {
    messages := messages
    bytes := ⟨bytes.1, Nat.le_trans bytes.2 (by decide)⟩
    weight := by
      intro m
      obtain ⟨one, most⟩ := weight_mem bytes.1 m
      exact ⟨one, most, Nat.le_trans most bytes.2⟩
    free := by
      intro queue pulled s course
      have books := course.books.2
      exact ⟨Nat.le.intro (congrArg (·.1) books), Nat.le.intro (congrArg (·.2.1) books)⟩ }

end Gates

/-! ## The clock -/

section Clock

variable {h : Handler} {c d : Consumer} {i : Nat} {run : ConsumerRun} {now now' : Nat}

/-- A clock can tell a deadline if there are as many seconds left. -/
theorem Handler.hasDeadline_ofConfig (c : ConsumerConfig) (p : Platform) (s : Sender) (newId : String)
    (now : Nat) : (ofConfig c p s newId).hasDeadline now =
      decide (now / 1000 + c.handleTimeoutSeconds.toNat ≤ lastSecond) := by
  rw [hasDeadline, ofConfig, Nat.add_mul_div_right _ _ (by decide)]

/-- A clock that cannot tell a deadline cannot do so later. -/
theorem Handler.hasDeadline_anti (h : Handler) (past : now ≤ now') (mute : h.hasDeadline now = false) :
    h.hasDeadline now' = false := by
  unfold hasDeadline at *
  rw [decide_eq_false_iff_not] at *
  omega

/-- A run handles messages only whose deadlines could be told, and is broken only when a deadline cannot
be told any more. -/
def ConsumerPhase.Suits (h : Handler) (now : Nat) : ConsumerPhase → Prop
  | .handling _ start _ => h.hasDeadline start = true
  | .aborted => h.hasDeadline now = false
  | _ => True

theorem ConsumerPhase.Suits.later {phase : ConsumerPhase} (suits : phase.Suits h now)
    (past : now ≤ now') : phase.Suits h now' := by
  cases phase with
  | aborted => exact h.hasDeadline_anti past suits
  | _ => exact suits

namespace Consumer

/-- A run that receives a message is to handle it, and breaks if a clock cannot tell the deadline. -/
theorem poll_of_receive {m : BusMessage} {s : Intake} (hrun : c.runs[i]? = some run)
    (waits : run.phase = .waiting) (goesOn : c.isOver run = false)
    (received : c.intake.receive? run.run = some (m, s)) :
    c.poll? i =
      let finish := c.intake.now + (c.handler.handle m).duration
      let taken : ConsumerRun := { run with phase := .handling m c.intake.now finish }
      let d : Consumer := { c.setRun i taken with intake := s }
      if c.handler.hasDeadline c.intake.now then some d
      else d.cutOff? i taken [(c.intake.now, Handler.takenOn)] := by
  rw [poll?, hrun]
  simp only [Option.bind_eq_bind, Option.bind_some, waits, take_of_receive goesOn received]

/-- A run that takes a step gets into a phase that suits the clock. -/
theorem suits_of_poll (next : c.poll? i = some d) :
    ∃ run', d.runs = c.runs.set i run' ∧ run'.phase.Suits c.handler c.intake.now := by
  obtain ⟨run, hrun, polled⟩ := poll_eq_some next
  cases polled with
  | left waits ends left =>
    exact ⟨{ run with phase := .leaving }, by rw [left]; rfl, trivial⟩
  | settled handles held ended =>
    refine ⟨_, by rw [ended]; rfl, ?_⟩
    trivial
  | finished leaves deserted ended =>
    exact ⟨{ run with phase := .finished }, by rw [ended]; rfl, trivial⟩
  | took waits goesOn received | broke waits goesOn received =>
    -- which of the two it is depends on the clock
    rw [poll_of_receive hrun waits goesOn received] at next
    simp only at next
    split at next
    next telling =>
      cases next
      exact ⟨_, rfl, telling⟩
    next mute =>
      obtain ⟨s, -, -, -, -, rfl⟩ := cutOff_eq_some next
      refine ⟨_, List.set_set .., ?_⟩
      exact Bool.eq_false_iff.2 mute

/-- Phases go on to suit the clock, whatever happens but that a run is cut off from outside. -/
theorem suits_of_step {a : Action} (next : c.step? a = some d) (spared : a.cutsOff = false)
    (suits : ∀ run ∈ c.runs, run.phase.Suits c.handler c.intake.now) :
    ∀ run ∈ d.runs, run.phase.Suits d.handler d.intake.now := by
  have keeps (runs : d.runs = c.runs) (handler : d.handler = c.handler)
      (past : c.intake.now ≤ d.intake.now) : ∀ run ∈ d.runs, run.phase.Suits d.handler d.intake.now := by
    intro run member
    rw [handler]
    exact (suits run (runs ▸ member)).later past
  cases a with
  | push attributes data =>
    obtain ⟨now, handler⟩ := step_clock next (by simp)
    cases next
    exact keeps rfl rfl (Nat.le_of_eq now.symm)
  | failPull =>
    cases next
    exact keeps rfl rfl (Nat.le_refl _)
  | start =>
    cases next
    intro run member
    rcases List.mem_append.1 member with old | new
    · exact suits run old
    · rw [List.mem_singleton.1 new]
      trivial
  | cancel r =>
    cases next
    intro run member
    obtain ⟨j, hj⟩ := List.mem_iff_getElem?.1 member
    rw [cancel, List.getElem?_modify] at hj
    obtain ⟨before, hbefore, rfl⟩ := Option.map_eq_some_iff.1 hj
    have old := suits before (List.mem_of_getElem? hbefore)
    split <;> exact old
  | abort r => cases spared
  | poll r =>
    obtain ⟨clock, handler⟩ := poll_clock next
    obtain ⟨run', runs, new⟩ := suits_of_poll next
    intro run member
    rw [handler, clock.now]
    rw [runs] at member
    rcases List.mem_or_eq_of_mem_set member with old | rfl
    · exact suits run old
    · exact new
  | work j =>
    obtain ⟨now, -⟩ := step_clock next (by simp)
    obtain ⟨t, -, rfl⟩ := Option.map_eq_some_iff.1 next
    exact keeps rfl rfl (Nat.le_of_eq now.symm)
  | pass ms =>
    obtain rfl := pass_eq_some next
    exact keeps rfl rfl (Nat.le_add_right _ _)

/-- What comes of actions that are possible and cut off no run. -/
theorem Uncut.follow {start : Consumer} {actions : List Action} (uncut : Uncut start c)
    (h : c.followUncut? actions = some d) : Uncut start d := by
  induction actions generalizing c with
  | nil =>
    cases h
    exact uncut
  | cons a rest ih =>
    rw [followUncut?] at h
    split at h
    · cases h
    next spared =>
      obtain ⟨e, next, h⟩ := Option.bind_eq_some_iff.1 h
      exact ih (uncut.step a next (Bool.eq_false_iff.2 spared)) h

/-- As long as nobody cuts off runs from outside, phases suit the clock. -/
theorem Uncut.suits {start : Consumer} (uncut : Uncut start c) (fresh : start.runs = []) :
    c.handler = start.handler ∧ ∀ run ∈ c.runs, run.phase.Suits c.handler c.intake.now := by
  induction uncut with
  | initial =>
    refine ⟨rfl, ?_⟩
    rw [fresh]
    simp
  | @step c d a before next spared ih =>
    obtain ⟨handler, suits⟩ := ih
    refine ⟨?_, suits_of_step next spared suits⟩
    by_cases timely : ∃ ms, a = .pass ms
    · obtain ⟨ms, rfl⟩ := timely
      obtain rfl := pass_eq_some next
      exact handler
    · exact (step_clock next fun ms passes => timely ⟨ms, passes⟩).2.trans handler

/-- A run that receives a message handles it from now on if a clock can tell the deadline, and else it
breaks. -/
theorem exists_poll_of_receive {m : BusMessage} {s : Intake} (hrun : c.runs[i]? = some run)
    (waits : run.phase = .waiting) (goesOn : c.isOver run = false)
    (received : c.intake.receive? run.run = some (m, s)) :
    ∃ d run', c.poll? i = some d ∧ d.runs[i]? = some run' ∧
      run'.phase =
        if c.handler.hasDeadline c.intake.now then
          .handling m c.intake.now (c.intake.now + (c.handler.handle m).duration)
        else .aborted := by
  obtain ⟨bound, -⟩ := List.getElem?_eq_some_iff.1 hrun
  rw [poll_of_receive hrun waits goesOn received]
  simp only
  cases telling : c.handler.hasDeadline c.intake.now with
  | true => exact ⟨_, _, if_pos rfl, List.getElem?_set_self bound, (if_pos rfl).symm⟩
  | false =>
    let finish := c.intake.now + (c.handler.handle m).duration
    let taken : ConsumerRun := { run with phase := .handling m c.intake.now finish }
    let busy : Consumer := { c.setRun i taken with intake := s }
    have held : m.id ∈ s.heldNames := by
      obtain ⟨own, rest, -, -, -, rfl⟩ := Intake.receive_eq_some received
      simp [Intake.heldNames, Intake.setRun]
    have handles : taken.phase = .handling m c.intake.now finish := rfl
    obtain ⟨d, cut, -⟩ := exists_cutOff (c := busy) (i := i) handles held
      [(c.intake.now, Handler.takenOn)]
    obtain ⟨t, -, -, -, -, rfl⟩ := cutOff_eq_some cut
    have present : i < busy.runs.length := (List.length_set ..).symm ▸ bound
    refine ⟨_, _, (if_neg Bool.false_ne_true).trans cut, List.getElem?_set_self present, ?_⟩
    exact (if_neg Bool.false_ne_true).symm

/-- The runs of a consumer with the time limit of settings mind the clock. -/
theorem Uncut.mindsClock {settings : ConsumerConfig} {p : Platform} {s : Sender} {newId : String}
    {limits : Limits} {queue : BusQueue} {window : Nat}
    (uncut : Uncut (idle limits queue (.ofConfig settings p s newId) window) c) :
    MindsClock settings.handleTimeoutSeconds.toNat c := by
  obtain ⟨handler, suits⟩ := uncut.suits rfl
  have telling (now : Nat) : c.handler.hasDeadline now =
      decide (now / 1000 + settings.handleTimeoutSeconds.toNat ≤ Handler.lastSecond) := by
    rw [handler]
    exact Handler.hasDeadline_ofConfig settings p s newId now
  constructor
  · intro run member aborted
    have suited := suits run member
    rw [aborted] at suited
    exact Nat.not_le.1 (of_decide_eq_false ((telling _).symm.trans suited))
  · intro run member m start finish handles
    have suited := suits run member
    rw [handles] at suited
    exact of_decide_eq_true ((telling _).symm.trans suited)
  · intro i run m s hrun waits goesOn received
    have taken := exists_poll_of_receive hrun waits goesOn received
    rw [telling] at taken
    simpa only [decide_eq_true_eq] using taken

end Consumer

end Clock

namespace Service

/-- The numbers in settings that pass the checks. An intake can be set up with them exactly if there is a
gate that can count as many messages; then its gates can count all their permits, at all times. And
whatever happens to a consumer with this intake, short of cutting off its runs, a run breaks at a message
exactly if a clock cannot tell its deadline. -/
theorem checked_numbers_are_usable_iff {c : Config} (checked : c.validate = .ok ()) (p : Platform)
    (s : Sender) (newId : String) (queue : BusQueue) (window : Nat) :
    ((∃ limits, Limits.ofConfig? c.puller = .ok limits) ↔
      c.puller.maxOutstandingMessages.toNat ≤ Limits.maxPermits) ∧
    ∀ limits, Limits.ofConfig? c.puller = .ok limits →
      limits.Countable ∧
      ∀ d, Consumer.Uncut (.idle limits queue (.ofConfig c.consumer p s newId) window) d →
        Consumer.MindsClock c.consumer.handleTimeoutSeconds.toNat d := by
  have valid := Config.validate_eq_ok.1 checked
  have decided := Limits.ofConfig?_eq valid.concurrency valid.outstandingMessages valid.messageRate
  have fits_of_accepted {limits : Limits} (accepted : Limits.ofConfig? c.puller = .ok limits) :
      c.puller.maxOutstandingMessages.toNat ≤ Limits.maxPermits := by
    by_contra many
    rw [decided, if_pos (Nat.not_le.1 many)] at accepted
    cases accepted
  refine ⟨⟨?_, ?_⟩, ?_⟩
  · rintro ⟨limits, accepted⟩
    exact fits_of_accepted accepted
  · intro fits
    exact ⟨_, decided.trans (if_neg (Nat.not_lt.2 fits))⟩
  · intro limits accepted
    exact ⟨Limits.countable_of_accepted accepted (fits_of_accepted accepted),
      fun d uncut => uncut.mindsClock⟩

/-- The worker of a run pulls the first message and sends it, and the run takes it. -/
def firstSteps : List Consumer.Action := [.start] ++ List.replicate 5 (.work 0) ++ [.poll 0]

/-- A queue with one message. -/
def oneAnnouncement : BusQueue := { messages := [Consumer.announcement "first"], staysOpen := true }

/-- With the settings that hold without any others a message is handled, here in three seconds. -/
theorem default_numbers_are_usable :
    let limits : Limits := ⟨1, 1000, 104857600, 200000⟩
    let handler := Handler.ofConfig {} (World.platform {}) (.failing [] 3000) "event"
    ({} : Config).validate = .ok () ∧ limits.Countable ∧
      ∃ d, Consumer.Uncut (.idle limits oneAnnouncement handler 60000) d ∧
        d.runs.map (·.phase) = [.handling (Consumer.announcement "first") 0 3000] ∧
        Consumer.MindsClock 5 d := by
  intro limits handler
  have checked : ({} : Config).validate = .ok () := by decide +kernel
  have accepted : Limits.ofConfig? ({} : Config).puller = .ok limits := by decide +kernel
  obtain ⟨-, usable⟩ := checked_numbers_are_usable_iff checked (World.platform {}) (.failing [] 3000)
    "event" oneAnnouncement 60000
  obtain ⟨countable, minds⟩ := usable limits accepted
  have outcome : ((Consumer.idle limits oneAnnouncement handler 60000).followUncut? firstSteps).map
      (·.runs.map (·.phase)) = some [.handling (Consumer.announcement "first") 0 3000] := by
    decide +kernel
  obtain ⟨d, followed, phases⟩ := Option.map_eq_some_iff.1 outcome
  have uncut := Consumer.Uncut.initial.follow followed
  exact ⟨checked, countable, d, uncut, phases, minds d uncut⟩

/-- Settings that allow one message more at a time than a gate can count. -/
def overcrowded : Config where
  puller := { maxOutstandingMessages := 2305843009213693952 }

/-- Settings that allow one second more for a message than a clock can tell. -/
def unhurried : Config where
  consumer := { handleTimeoutSeconds := 9223372036854775808 }

/-- Both pass the checks. No intake can be set up with the first, and with the second a run breaks at its
first message. -/
theorem extreme_numbers_pass_the_checks :
    overcrowded.validate = .ok () ∧
      Limits.ofConfig? overcrowded.puller = .error .tooManyPermits ∧
      unhurried.validate = .ok () ∧
      ∃ limits d, Limits.ofConfig? unhurried.puller = .ok limits ∧
        Consumer.Uncut (.idle limits oneAnnouncement
          (.ofConfig unhurried.consumer (World.platform {}) (.failing [] 3000) "event") 60000) d ∧
        d.runs.map (·.phase) = [.aborted] := by
  let limits : Limits := ⟨1, 1000, 104857600, 200000⟩
  let handler := Handler.ofConfig unhurried.consumer (World.platform {}) (.failing [] 3000) "event"
  have outcome : ((Consumer.idle limits oneAnnouncement handler 60000).followUncut? firstSteps).map
      (·.runs.map (·.phase)) = some [.aborted] := by
    decide +kernel
  obtain ⟨d, followed, phases⟩ := Option.map_eq_some_iff.1 outcome
  refine ⟨by decide +kernel, by decide +kernel, by decide +kernel, limits, d, by decide +kernel, ?_,
    phases⟩
  exact Consumer.Uncut.initial.follow followed

end Service

end FlagAlerts
