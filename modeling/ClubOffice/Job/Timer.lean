import ClubOffice.Job.Basic

/-!
# The timer of a job

A timer fires first after the initial delay and then at whole periods after that. While a run goes
on it does not fire; a fire that comes late happens as soon as the run is over, and the next one is
at the following whole period. A lateness of a few milliseconds does not count. A period of zero
ends the timer when it should fire for the first time. Nothing waits longer than thirty years.
-/

namespace ClubOffice.Job

/-- A run as the timer saw it: when it began, and when it ended if it did. -/
structure Span where
  began : Nat
  ended : Option Nat
deriving DecidableEq, Repr

namespace Timer

/-- The lateness in milliseconds up to which a fire is on time. -/
def tolerance : Nat := 5

/-- The longest that anything waits, in milliseconds: thirty years of 365 days. -/
def longestWait : Nat := 30 * 365 * 24 * 60 * 60 * 1000

def capped (time : Nat) : Nat := min time longestWait

/-- When the timer is to fire next, after a fire that was due at `due` and came at `fired`. -/
def next (period due fired : Nat) : Nat :=
  if due + tolerance < fired then fired + period - (fired - due) % period else due + period

theorem lt_next (period due fired : Nat) (pos : 0 < period) (le : due ≤ fired) :
    due < next period due fired := by
  unfold next
  split
  · have := Nat.mod_lt (fired - due) pos
    omega
  · omega

/-- The runs that begin up to the horizon, when the timer is to fire at `due` and the runner is free
from `free` on. Each run takes the next of the durations, and after the last one no time; a run
without a duration never ends. -/
def runs (period horizon : Nat) (due free : Nat) (durations : List (Option Nat)) : List Span :=
  if _h : 0 < period ∧ max due free ≤ horizon then
    let fired := max due free
    match durations.headD (some 0) with
    | none => [⟨fired, none⟩]
    | some duration =>
        ⟨fired, some (fired + duration)⟩ ::
          runs period horizon (next period due fired) (fired + duration) durations.tail
  else []
termination_by horizon + 1 - due
decreasing_by
  have := lt_next period due (max due free) _h.1 (Nat.le_max_left due free)
  omega

def firstFire (schedule : Schedule) : Nat := capped (schedule.initialDelay.getD 0)

def timeline (schedule : Schedule) (durations : List (Option Nat)) (horizon : Nat) : List Span :=
  runs (capped schedule.period) horizon (firstFire schedule) (firstFire schedule)
    (durations.map (·.map capped))

/-- Whether the timer has stopped of its own before a moment. -/
def hasStopped (schedule : Schedule) (moment : Nat) : Bool :=
  schedule.period = 0 && firstFire schedule < moment

end Timer

/-- What is seen at a look: the runs that began and that ended since the look before, whether a run
is going on, and whether the timer has stopped. -/
structure Look where
  began : List Nat
  ended : List Nat
  running : Bool
  stopped : Bool
deriving DecidableEq, Repr

namespace Timer

/-- What is seen of a timeline at a look, given the moment of the look before it, which is 0 if
there was none. A look comes before what happens in its moment. -/
def look (schedule : Schedule) (spans : List Span) (before now : Nat) : Look :=
  let seen (moment : Nat) : Bool := before ≤ moment && moment < now
  { began := (spans.map (·.began)).filter seen
    ended := (spans.filterMap (·.ended)).filter seen
    running := spans.any fun span => span.began < now && span.ended.all (now ≤ ·)
    stopped := hasStopped schedule now }

def looks (schedule : Schedule) (spans : List Span) : Nat → List Nat → List Look
  | _, [] => []
  | clock, wait :: rest =>
      look schedule spans clock (clock + wait) :: looks schedule spans (clock + wait) rest

/-- Starts a timer and looks at it again and again, after each of the given waits. -/
def watch (schedule : Schedule) (durations : List (Option Nat)) (waits : List Nat) : List Look :=
  let waits := waits.map capped
  looks schedule (timeline schedule durations (waits.foldl (· + ·) 0)) 0 waits

end Timer

end ClubOffice.Job
