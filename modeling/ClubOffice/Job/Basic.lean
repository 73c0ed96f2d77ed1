import ClubOffice.Fault
import ClubOffice.Text.Quoted

/-!
# Jobs

A job is upkeep that runs from time to time. A run ends with a report, with a fault, or in a crash;
whoever started it is told the outcome in words.
-/

namespace ClubOffice.Job

/-- When a job runs: every so many milliseconds, perhaps after a first wait. -/
structure Schedule where
  period : Nat
  initialDelay : Option Nat
deriving DecidableEq, Repr

/-- How a run ends; a report is the number of things that it dealt with. -/
inductive Ending
  | report (processed : Nat)
  | fault (cause : Fault)
  | crash (message : String)
deriving DecidableEq, Repr

def Ending.ofExcept : Except Fault Nat → Ending
  | .ok processed => .report processed
  | .error cause => .fault cause

/-- What whoever asked for a run is told. -/
inductive Outcome
  | completed (processed : Nat)
  | failed (reason : String)
  | skipped
deriving DecidableEq, Repr

/-- What is told of a crash. The number of the task that ran is not told. -/
def crashNote (message : String) : String :=
  "job task aborted: task # panicked with message " ++ Text.quoted message

/-- What is told of a run that was started. -/
def Ending.outcome : Ending → Outcome
  | .report processed => .completed processed
  | .fault cause => .failed cause.message
  | .crash message => .failed (crashNote message)

end ClubOffice.Job
