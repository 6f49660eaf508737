/-!
# Work that takes time

A piece of timed work does things, one after another, and waits in between, before it ends with a
result. Work can be given a budget of time: it is cut off when it would wait beyond the budget, and
what it did until then stays done. Times are in milliseconds.
-/

namespace FlagAlerts

/-- An answer that takes time. -/
structure Delayed (α : Type) where
  delay : Nat := 0
  value : α
  deriving Repr, DecidableEq, Inhabited

/-- Work that does things of type `ε`, waits, and ends with a result of type `α`. -/
inductive Timed (ε α : Type) where
  | done (a : α)
  | act (e : ε) (rest : Timed ε α)
  | wait (ms : Nat) (rest : Timed ε α)
  deriving Repr, DecidableEq, Inhabited

namespace Timed

variable {ε α β : Type}

/-- Work followed by work that depends on its result. -/
def andThen : Timed ε α → (α → Timed ε β) → Timed ε β
  | .done a, f => f a
  | .act e rest, f => .act e (andThen rest f)
  | .wait ms rest, f => .wait ms (andThen rest f)

instance : Monad (Timed ε) where
  pure := .done
  bind := andThen

/-- Does one thing. -/
def tell (e : ε) : Timed ε Unit := .act e (.done ())

/-- Waits for an answer. -/
def await (d : Delayed α) : Timed ε α :=
  if d.delay = 0 then .done d.value else .wait d.delay (.done d.value)

/-- What is done, in order. -/
def acts : Timed ε α → List ε
  | .done _ => []
  | .act e rest => e :: rest.acts
  | .wait _ rest => rest.acts

/-- What is done, in order, with its instants, by work that starts at an instant. -/
def actsFrom : Nat → Timed ε α → List (Nat × ε)
  | _, .done _ => []
  | now, .act e rest => (now, e) :: actsFrom now rest
  | now, .wait ms rest => actsFrom (now + ms) rest

/-- How long the work takes. -/
def duration : Timed ε α → Nat
  | .done _ => 0
  | .act _ rest => rest.duration
  | .wait ms rest => ms + rest.duration

/-- The result. -/
def result : Timed ε α → α
  | .done a => a
  | .act _ rest => rest.result
  | .wait _ rest => rest.result

/-- The work cut off, without a result, when it would wait beyond the budget. -/
def within : Nat → Timed ε α → Timed ε (Option α)
  | _, .done a => .done (some a)
  | budget, .act e rest => .act e (within budget rest)
  | budget, .wait ms rest =>
    if ms ≤ budget then .wait ms (within (budget - ms) rest) else .wait budget (.done none)

/-- The work cut off, without a result, at an instant; what would go on at that instant is not
done any more. -/
def until_ : Nat → Timed ε α → Timed ε (Option α)
  | _, .done a => .done (some a)
  | instant, .act e rest => .act e (until_ instant rest)
  | instant, .wait ms rest =>
    if ms < instant then .wait ms (until_ (instant - ms) rest) else .wait instant (.done none)

end Timed

end FlagAlerts
