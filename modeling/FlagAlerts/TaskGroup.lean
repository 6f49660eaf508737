/-!
# Groups of background tasks

The owner of a group starts tasks, tells all of them to stop by one signal, and waits for all of
them. Tasks get on only while the owner sleeps or waits; those that are ready finish in the order in
which they were started. A group that was waited for is empty, whether its tasks ended or not.
-/

namespace FlagAlerts

/-- What a task does. -/
inductive TaskKind where
  /-- Returns after some milliseconds. -/
  | returnAfter (ms : Nat)
  /-- Returns once the signal was given. -/
  | untilSignal
  | crash
  deriving Repr, DecidableEq, Inhabited

/-- A task that has not ended. -/
structure Task where
  name : String
  kind : TaskKind
  startedAt : Nat
  /-- Whether the group still has to wait for the task. -/
  isOwned : Bool := true
  deriving Repr, DecidableEq, Inhabited

/-- A group of tasks. -/
structure TaskGroup where
  /-- The time in milliseconds. -/
  now : Nat := 0
  isSignalled : Bool := false
  /-- The tasks that have not ended. -/
  tasks : List Task := []
  /-- How many tasks have not been waited for. -/
  size : Nat := 0
  /-- The tasks that returned, in order. -/
  returned : List String := []
  deriving Repr, DecidableEq, Inhabited

namespace TaskGroup

/-- Starts a task. -/
def spawn (g : TaskGroup) (name : String) (kind : TaskKind) : TaskGroup :=
  { g with tasks := g.tasks ++ [{ name, kind, startedAt := g.now }], size := g.size + 1 }

/-- Gives the signal to stop. -/
def signal (g : TaskGroup) : TaskGroup := { g with isSignalled := true }

/-- The instant at which a task ends by itself. -/
def endTime? (t : Task) : Option Nat :=
  match t.kind with
  | .returnAfter ms => some (t.startedAt + ms)
  | .crash => some t.startedAt
  | .untilSignal => none

/-- Whether a task ends now. -/
def isReady (g : TaskGroup) (t : Task) : Bool :=
  match endTime? t with
  | some instant => instant ≤ g.now
  | none => g.isSignalled

/-- All tasks that are ready end. -/
def settleDown (g : TaskGroup) : TaskGroup :=
  let ready := g.tasks.filter g.isReady
  { g with
    tasks := g.tasks.filter fun t => !g.isReady t
    returned := g.returned ++ (ready.filter (·.kind != .crash)).map (·.name) }

/-- The tasks go on until the group is done with its own or, if it is not to wait, up to an
instant. -/
def goUpTo (waits : Bool) (deadline : Nat) : Nat → TaskGroup → TaskGroup
  | 0, g => g
  | fuel + 1, g =>
    let g := g.settleDown
    if waits && g.tasks.all (!·.isOwned) then g
    else if deadline ≤ g.now then g
    else
      let next := ((g.tasks.filterMap endTime?).filter (g.now < ·)).min?.getD deadline
      goUpTo waits deadline fuel { g with now := min next deadline }

/-- The owner sleeps. -/
def sleep (g : TaskGroup) (ms : Nat) : TaskGroup :=
  g.goUpTo false (g.now + ms) (g.tasks.length + 2)

/-- The owner waits for all tasks, for at most so many milliseconds; gives whether all ended. -/
def shutDown (g : TaskGroup) (ms : Nat) : Bool × TaskGroup :=
  let g := { g with size := 0 }.goUpTo true (g.now + ms) (g.tasks.length + 2)
  let isDone := g.tasks.all (!·.isOwned)
  (isDone, { g with tasks := g.tasks.map fun t => { t with isOwned := false } })

end TaskGroup

end FlagAlerts
