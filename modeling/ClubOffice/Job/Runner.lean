import ClubOffice.Job.Basic

/-!
# The job runner

A runner lets one run of its job happen at a time. Whoever starts a run takes the run guard for it;
from then on the guard belongs to the run, even when whoever started it has left. Whoever wants to
know that no run is in flight waits in line for the guard and puts it back at once. The guard is
fair: when it is put back it goes to the first in line, and only when nobody waits is it free.
-/

namespace ClubOffice.Job

/-- Who holds the run guard. -/
inductive Holder
  | run (number : Nat)
  | waiter (name : Nat)
deriving DecidableEq, Repr

/-- Who holds the guard, who waits in line for it, how many runs were started, which runs are in
flight, what is told of those that have ended, and which callers wait for which run. Runs are
numbered in the order in which they were started. -/
structure Runner where
  holder : Option Holder
  line : List Nat
  started : Nat
  live : List Nat
  ended : List (Nat × Outcome)
  callers : List (Nat × Nat)
deriving DecidableEq, Repr

namespace Runner

def idle : Runner := ⟨none, [], 0, [], [], []⟩

/-- Whether the guard is held, which is how the runner tells that a run is going on. -/
def isRunning (runner : Runner) : Bool := runner.holder.isSome

/-- Puts the guard back: it goes to the first in line, if there is one. -/
def release (runner : Runner) : Runner :=
  match runner.line with
  | [] => { runner with holder := none }
  | first :: line => { runner with holder := some (.waiter first), line := line }

def releaseFrom (holder : Holder) (runner : Runner) : Runner :=
  if runner.holder = some holder then runner.release else runner

/-- A caller asks for a run: it is started if the guard is free, and then the caller waits for it;
else the caller is told at once that it is skipped. -/
def trigger (caller : Nat) (runner : Runner) : Option Outcome × Runner :=
  if runner.isRunning then (some .skipped, runner)
  else
    (none,
      { runner with
        holder := some (.run runner.started)
        started := runner.started + 1
        live := runner.live ++ [runner.started]
        callers := runner.callers ++ [(caller, runner.started)] })

/-- A run in flight ends: its guard is put back, and there is something to tell of it. -/
def finish (number : Nat) (ending : Ending) (runner : Runner) : Runner :=
  if number ∈ runner.live then
    { runner with
      live := runner.live.erase number
      ended := runner.ended ++ [(number, ending.outcome)] }.releaseFrom (.run number)
  else runner

def outcome? (runner : Runner) (number : Nat) : Option Outcome :=
  (runner.ended.find? (·.1 = number)).map (·.2)

def awaited? (runner : Runner) (caller : Nat) : Option Nat :=
  (runner.callers.find? (·.1 = caller)).map (·.2)

/-- A caller leaves without waiting any longer. The run goes on. -/
def leave (caller : Nat) (runner : Runner) : Runner :=
  { runner with callers := runner.callers.filter (·.1 ≠ caller) }

/-- A caller is told of its run, if that has ended, and then waits no longer. -/
def hear (caller : Nat) (runner : Runner) : Option Outcome × Runner :=
  match (runner.awaited? caller).bind runner.outcome? with
  | none => (none, runner)
  | some outcome => (some outcome, runner.leave caller)

/-- Someone asks to be told that no run is in flight: at once if the guard is free, and else after
waiting in line. Gives whether it was told. -/
def waitIdle (waiter : Nat) (runner : Runner) : Bool × Runner :=
  if runner.isRunning then (false, { runner with line := runner.line ++ [waiter] })
  else (true, runner)

/-- A waiter that has been given the guard notices, and puts it back. Gives whether it was told. -/
def wake (waiter : Nat) (runner : Runner) : Bool × Runner :=
  if runner.holder = some (.waiter waiter) then (true, runner.release) else (false, runner)

/-- A waiter gives up, and puts the guard back if it had been given it. -/
def giveUp (waiter : Nat) (runner : Runner) : Runner :=
  if runner.holder = some (.waiter waiter) then runner.release
  else { runner with line := runner.line.erase waiter }

end Runner

end ClubOffice.Job
