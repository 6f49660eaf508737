import FlagAlerts.Timed

/-!
# What timed work does and gives

The things that work does come one after another, and its result depends on nothing but the results
of its parts; waiting changes neither. Work that is cut off does the first part of what it would do:
as much as it can while it reaches instants at which it may go on.
-/

namespace FlagAlerts.Timed

variable {ε α β : Type}

@[simp] theorem result_pure (a : α) : (pure a : Timed ε α).result = a := rfl

@[simp] theorem acts_pure (a : α) : (pure a : Timed ε α).acts = [] := rfl

@[simp] theorem acts_tell (e : ε) : (tell e).acts = [e] := rfl

@[simp] theorem result_await (d : Delayed α) : (await d : Timed ε α).result = d.value := by
  unfold await
  split <;> rfl

@[simp] theorem acts_await (d : Delayed α) : (await d : Timed ε α).acts = [] := by
  unfold await
  split <;> rfl

@[simp] theorem result_bind (work : Timed ε α) (f : α → Timed ε β) :
    (work >>= f).result = (f work.result).result := by
  induction work with
  | done a => rfl
  | act e rest ih => exact ih
  | wait ms rest ih => exact ih

@[simp] theorem acts_bind (work : Timed ε α) (f : α → Timed ε β) :
    (work >>= f).acts = work.acts ++ (f work.result).acts := by
  induction work with
  | done a => rfl
  | act e rest ih => exact congrArg (e :: ·) ih
  | wait ms rest ih => exact ih

@[simp] theorem duration_pure (a : α) : (pure a : Timed ε α).duration = 0 := rfl

@[simp] theorem duration_tell (e : ε) : (tell e).duration = 0 := rfl

@[simp] theorem duration_await (d : Delayed α) : (await d : Timed ε α).duration = d.delay := by
  unfold await
  split
  next atOnce => exact atOnce.symm
  next => rfl

@[simp] theorem duration_bind (work : Timed ε α) (f : α → Timed ε β) :
    (work >>= f).duration = work.duration + (f work.result).duration := by
  induction work with
  | done a => exact (Nat.zero_add _).symm
  | act e rest ih => exact ih
  | wait ms rest ih =>
    change ms + (rest >>= f).duration = ms + rest.duration + (f rest.result).duration
    rw [ih, Nat.add_assoc]

/-- The instants at which things are done do not change what is done. -/
theorem map_actsFrom (work : Timed ε α) (start : Nat) :
    (work.actsFrom start).map (·.2) = work.acts := by
  induction work generalizing start with
  | done a => rfl
  | act e rest ih => exact congrArg (e :: ·) (ih start)
  | wait ms rest ih => exact ih (start + ms)

/-! ## Work that is cut off -/

/-- What work does within a budget is the first part of what it does. -/
theorem acts_within (work : Timed ε α) (budget : Nat) : (work.within budget).acts <+: work.acts := by
  induction work generalizing budget with
  | done a => exact List.prefix_rfl
  | act e rest ih => exact (List.prefix_cons_inj e).2 (ih budget)
  | wait ms rest ih =>
    rw [within]
    split
    · exact ih (budget - ms)
    · exact List.nil_prefix

/-- What work does up to an instant is the first part of what it does. -/
theorem acts_until (work : Timed ε α) (instant : Nat) :
    (work.until_ instant).acts <+: work.acts := by
  induction work generalizing instant with
  | done a => exact List.prefix_rfl
  | act e rest ih => exact (List.prefix_cons_inj e).2 (ih instant)
  | wait ms rest ih =>
    rw [until_]
    split
    · exact ih (instant - ms)
    · exact List.nil_prefix

/-- Work that has a result within a budget is done, with that result. -/
theorem of_within_eq_some {work : Timed ε α} {budget : Nat} {a : α}
    (h : (work.within budget).result = some a) :
    work.result = a ∧ (work.within budget).acts = work.acts := by
  induction work generalizing budget with
  | done b =>
    cases h
    exact ⟨rfl, rfl⟩
  | act e rest ih =>
    obtain ⟨result, acts⟩ := ih h
    exact ⟨result, congrArg (e :: ·) acts⟩
  | wait ms rest ih =>
    rw [within] at h ⊢
    split at h
    next fits =>
      rw [if_pos fits]
      exact ih h
    next => cases h

/-- Work that has a result within a budget takes no longer than that. -/
theorem duration_of_within_eq_some {work : Timed ε α} {budget : Nat} {a : α}
    (h : (work.within budget).result = some a) :
    (work.within budget).duration = work.duration ∧ work.duration ≤ budget := by
  induction work generalizing budget with
  | done b => exact ⟨rfl, Nat.zero_le _⟩
  | act e rest ih => exact ih h
  | wait ms rest ih =>
    rw [within] at h ⊢
    split at h
    next fits =>
      obtain ⟨same, within⟩ := ih h
      rw [if_pos fits]
      simp only [duration]
      omega
    next => cases h

/-- Work that takes no longer than its budget has its result, and other work has none. -/
theorem result_within (work : Timed ε α) (budget : Nat) :
    (work.within budget).result = if work.duration ≤ budget then some work.result else none := by
  induction work generalizing budget with
  | done a => rfl
  | act e rest ih => exact ih budget
  | wait ms rest ih =>
    have whole : (wait ms rest).duration = ms + rest.duration := rfl
    rw [within, whole]
    by_cases fits : ms ≤ budget
    · have same : ms + rest.duration ≤ budget ↔ rest.duration ≤ budget - ms := by omega
      rw [if_pos fits]
      simp only [result, ih (budget - ms), same]
    · rw [if_neg fits, if_neg (by omega)]
      rfl

/-- Work that is cut off has used up its budget. -/
theorem duration_within (work : Timed ε α) (budget : Nat) :
    (work.within budget).duration = min work.duration budget := by
  induction work generalizing budget with
  | done a => exact (Nat.zero_min _).symm
  | act e rest ih => exact ih budget
  | wait ms rest ih =>
    rw [within]
    by_cases fits : ms ≤ budget
    · rw [if_pos fits]
      simp only [duration, ih (budget - ms)]
      omega
    · rw [if_neg fits]
      simp only [duration]
      omega

/-- Whether the work waits at all. -/
def waits : Timed ε α → Bool
  | .done _ => false
  | .act _ rest => rest.waits
  | .wait .. => true

/-- A budget changes how long work waits, but not whether it does. -/
@[simp] theorem waits_within (work : Timed ε α) (budget : Nat) :
    (work.within budget).waits = work.waits := by
  induction work generalizing budget with
  | done a => rfl
  | act e rest ih => exact ih budget
  | wait ms rest ih =>
    rw [within]
    split <;> rfl

@[simp] theorem waits_pure (a : α) : (pure a : Timed ε α).waits = false := rfl

@[simp] theorem waits_bind (work : Timed ε α) (f : α → Timed ε β) :
    (work >>= f).waits = (work.waits || (f work.result).waits) := by
  induction work with
  | done a => exact (Bool.false_or _).symm
  | act e rest ih => exact ih
  | wait ms rest ih => rfl

theorem duration_of_waits_eq_false {work : Timed ε α} (still : work.waits = false) :
    work.duration = 0 := by
  induction work with
  | done a => rfl
  | act e rest ih => exact ih still
  | wait ms rest ih => cases still

/-- Work that would still be waiting at an instant has no result if it is cut off there. -/
theorem result_until (work : Timed ε α) (stop : Nat) :
    (work.until_ stop).result =
      if work.waits = true ∧ stop ≤ work.duration then none else some work.result := by
  induction work generalizing stop with
  | done a => simp [until_, result, waits]
  | act e rest ih => exact ih stop
  | wait ms rest ih =>
    rw [until_]
    simp only [waits, duration, result, true_and]
    split
    next fits =>
      rw [result, ih (stop - ms)]
      -- what does not wait any more is over at once
      have same : (rest.waits = true ∧ stop - ms ≤ rest.duration) ↔ stop ≤ ms + rest.duration := by
        cases more : rest.waits with
        | true =>
          simp only [true_and]
          omega
        | false =>
          have := duration_of_waits_eq_false more
          simp only [Bool.false_eq_true, false_and, false_iff]
          omega
      simp only [same]
    next beyond =>
      rw [if_pos (by omega)]
      rfl

@[simp] theorem bind_pure (work : Timed ε α) : work >>= pure = work := by
  induction work with
  | done a => rfl
  | act e rest ih => exact congrArg (act e) ih
  | wait ms rest ih => exact congrArg (wait ms) ih

/-- A budget that is not used up changes nothing. -/
theorem within_bind_of_duration_le {work : Timed ε α} {budget : Nat}
    (fits : work.duration ≤ budget) (f : Option α → Timed ε β) :
    work.within budget >>= f = work >>= fun a => f (some a) := by
  induction work generalizing budget with
  | done a => rfl
  | act e rest ih => exact congrArg (act e) (ih fits)
  | wait ms rest ih =>
    have whole : (wait ms rest).duration = ms + rest.duration := rfl
    have fits' : rest.duration ≤ budget - ms := by omega
    rw [within, if_pos (by omega)]
    exact congrArg (wait ms) (ih fits')

/-- A stop that comes too late changes nothing. -/
theorem until_bind_of_duration_lt {work : Timed ε α} {stop : Nat}
    (brief : work.waits = true → work.duration < stop) (f : Option α → Timed ε β) :
    work.until_ stop >>= f = work >>= fun a => f (some a) := by
  induction work generalizing stop with
  | done a => rfl
  | act e rest ih => exact congrArg (act e) (ih brief)
  | wait ms rest ih =>
    have whole : ms + rest.duration < stop := brief rfl
    have brief' : rest.waits = true → rest.duration < stop - ms := fun _ => by omega
    rw [until_, if_pos (by omega)]
    exact congrArg (wait ms) (ih brief')

/-! ## Work that goes on as long as it may -/

/-- What is done, with its instants, by work that starts at an instant and goes on as long as it may
reach instants. -/
def actsWhile (mayReach : Nat → Bool) : Nat → Timed ε α → List (Nat × ε)
  | _, .done _ => []
  | now, .act e rest => (now, e) :: actsWhile mayReach now rest
  | now, .wait ms rest =>
    if mayReach (now + ms) then actsWhile mayReach (now + ms) rest else []

/-- Whether work that starts at an instant gets to its end. -/
def lastsWhile (mayReach : Nat → Bool) : Nat → Timed ε α → Bool
  | _, .done _ => true
  | now, .act _ rest => lastsWhile mayReach now rest
  | now, .wait ms rest => mayReach (now + ms) && lastsWhile mayReach (now + ms) rest

section Bounded

variable (mayReach : Nat → Bool)

theorem actsWhile_bind (now : Nat) (work : Timed ε α) (f : α → Timed ε β) :
    (work >>= f).actsWhile mayReach now = work.actsWhile mayReach now ++
      if work.lastsWhile mayReach now then
        (f work.result).actsWhile mayReach (now + work.duration) else [] := by
  induction work generalizing now with
  | done a => rfl
  | act e rest ih => exact congrArg ((now, e) :: ·) (ih now)
  | wait ms rest ih =>
    have later := ih (now + ms)
    rw [Nat.add_assoc] at later
    simp only [Bind.bind, andThen, actsWhile, lastsWhile, duration, result] at later ⊢
    by_cases goes : mayReach (now + ms) = true
    · simp only [goes, if_true, Bool.true_and, later]
    · simp [goes]

theorem lastsWhile_bind (now : Nat) (work : Timed ε α) (f : α → Timed ε β) :
    (work >>= f).lastsWhile mayReach now =
      (work.lastsWhile mayReach now &&
        (f work.result).lastsWhile mayReach (now + work.duration)) := by
  induction work generalizing now with
  | done a => rfl
  | act e rest ih => exact ih now
  | wait ms rest ih =>
    have later := ih (now + ms)
    rw [Nat.add_assoc] at later
    simp only [Bind.bind, andThen, lastsWhile, duration, result] at later ⊢
    rw [later, Bool.and_assoc]

/-- A budget is one more reason not to reach an instant. -/
theorem actsWhile_within (now budget : Nat) (work : Timed ε α) :
    (work.within budget).actsWhile mayReach now =
      work.actsWhile (fun instant => mayReach instant && decide (instant ≤ now + budget)) now := by
  induction work generalizing now budget with
  | done a => rfl
  | act e rest ih => exact congrArg ((now, e) :: ·) (ih now budget)
  | wait ms rest ih =>
    rw [within]
    split
    next fits =>
      have later := ih (now + ms) (budget - ms)
      rw [Nat.add_assoc, Nat.add_sub_cancel' fits] at later
      simp only [actsWhile, later, Nat.add_le_add_iff_left, fits, decide_true, Bool.and_true]
    next beyond => simp [actsWhile, beyond]

/-- A stop is one more reason not to reach an instant. -/
theorem actsWhile_until (now stop : Nat) (work : Timed ε α) :
    (work.until_ stop).actsWhile mayReach now =
      work.actsWhile (fun instant => mayReach instant && decide (instant < now + stop)) now := by
  induction work generalizing now stop with
  | done a => rfl
  | act e rest ih => exact congrArg ((now, e) :: ·) (ih now stop)
  | wait ms rest ih =>
    rw [until_]
    split
    next fits =>
      have later := ih (now + ms) (stop - ms)
      rw [Nat.add_assoc, Nat.add_sub_cancel' (Nat.le_of_lt fits)] at later
      simp only [actsWhile, later, Nat.add_lt_add_iff_left, fits, decide_true, Bool.and_true]
    next beyond => simp [actsWhile, beyond]

/-- Work that may reach every instant does all that it does. -/
theorem actsFrom_eq_actsWhile (now : Nat) (work : Timed ε α) :
    work.actsFrom now = work.actsWhile (fun _ => true) now := by
  induction work generalizing now with
  | done a => rfl
  | act e rest ih => exact congrArg ((now, e) :: ·) (ih now)
  | wait ms rest ih => exact ih (now + ms)

/-- What is done is the first part of what would be done. -/
theorem actsWhile_isPrefix (now : Nat) (work : Timed ε α) :
    work.actsWhile mayReach now <+: work.actsFrom now := by
  induction work generalizing now with
  | done a => exact List.prefix_rfl
  | act e rest ih => exact (List.prefix_cons_inj (now, e)).2 (ih now)
  | wait ms rest ih =>
    rw [actsWhile]
    split
    · exact ih (now + ms)
    · exact List.nil_prefix

/-- Nothing is done that would not be done anyway. -/
theorem mem_acts_of_actsWhile {now : Nat} {work : Timed ε α} {x : Nat × ε}
    (h : x ∈ work.actsWhile mayReach now) : x.2 ∈ work.acts := by
  induction work generalizing now with
  | done a => simp [actsWhile] at h
  | act e rest ih =>
    rcases List.mem_cons.1 h with rfl | later
    · exact List.mem_cons_self
    · exact List.mem_cons_of_mem _ (ih later)
  | wait ms rest ih =>
    rw [actsWhile] at h
    split at h
    · exact ih h
    · simp at h

/-- Work that goes on with nothing to do does nothing more. -/
theorem actsWhile_bind_of_still {work : Timed ε α} {f : α → Timed ε β}
    (still : ∀ a, (f a).acts = []) (now : Nat) :
    (work >>= f).actsWhile mayReach now = work.actsWhile mayReach now := by
  have nothing : (f work.result).actsWhile mayReach (now + work.duration) = [] := by
    refine List.eq_nil_iff_forall_not_mem.2 fun x hx => ?_
    have done := mem_acts_of_actsWhile mayReach hx
    rw [still] at done
    cases done
  rw [actsWhile_bind, nothing]
  simp

end Bounded

/-- What is done, with its instants, by work that starts at an instant and is stopped some time
later, or never. -/
def actsUntil (stop? : Option Nat) (start : Nat) (work : Timed ε α) : List (Nat × ε) :=
  match stop? with
  | none => work.actsFrom start
  | some ms => (work.until_ ms).actsFrom start

/-- Whether work that starts at an instant and is stopped some time later, or never, goes on at an
instant. -/
def isBeforeStop (stop? : Option Nat) (start instant : Nat) : Bool :=
  stop?.all fun ms => instant < start + ms

theorem actsUntil_eq_actsWhile (stop? : Option Nat) (start : Nat) (work : Timed ε α) :
    work.actsUntil stop? start = work.actsWhile (isBeforeStop stop? start) start := by
  cases stop? with
  | none => exact actsFrom_eq_actsWhile start work
  | some ms =>
    rw [actsUntil, actsFrom_eq_actsWhile, actsWhile_until]
    rfl

end FlagAlerts.Timed
