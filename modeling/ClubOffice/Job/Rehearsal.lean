import ClubOffice.Job.Runner

/-!
# Rehearsals with a runner

A runner with a job whose runs are arranged in advance, on a clock that moves only when everything
waits. A run first waits to be let go if it is blocked, then takes its time, and then ends. When a
wait on the bench is over in the very moment in which a run is, the bench comes first: the run ends
as soon as the bench waits or settles again.
-/

namespace ClubOffice.Job

/-- What is arranged for a run: whether it waits to be let go, how long it takes, and its end. -/
structure Arranged where
  blocked : Bool
  duration : Nat
  ending : Ending
deriving DecidableEq, Repr

def Arranged.plain : Arranged := ⟨false, 0, .report 0⟩

/-- Where the run in flight stands: waiting to be let go, or taking its time until a moment. -/
inductive Progress
  | blocked (run : Arranged)
  | busy (moment : Nat) (ending : Ending)
deriving DecidableEq, Repr

/-- A runner, its run in flight, what is arranged for the runs to come, whether the next blocked run
may go, the time, the number of runs that have ended, the callers that were started and not looked
for since, last one first, what callers were told, and the number of callers so far. -/
structure Bench where
  runner : Runner
  progress : Option Progress
  arranged : List Arranged
  permit : Bool
  clock : Nat
  ended : Nat
  pending : List Nat
  told : List (Nat × Outcome)
  callers : Nat
deriving DecidableEq, Repr

namespace Bench

def set (arranged : List Arranged) : Bench :=
  ⟨.idle, none, arranged, false, 0, 0, [], [], 0⟩

def tell (bench : Bench) (caller : Nat) : Bench :=
  match bench.runner.hear caller with
  | (some outcome, runner) =>
      { bench with runner := runner, told := bench.told ++ [(caller, outcome)] }
  | (none, _) => bench

def finish (bench : Bench) (ending : Ending) : Bench :=
  let runner :=
    match bench.runner.live with
    | [] => bench.runner
    | number :: _ => bench.runner.finish number ending
  (runner.callers.map (·.1)).foldl tell
    { bench with runner := runner, progress := none, ended := bench.ended + 1 }

/-- Carries the run in flight as far as it gets without the clock moving. -/
def settle (bench : Bench) : Bench :=
  match bench.progress with
  | none => bench
  | some (.blocked run) =>
      if bench.permit then
        let bench := { bench with permit := false }
        if run.duration = 0 then bench.finish run.ending
        else { bench with progress := some (.busy (bench.clock + run.duration) run.ending) }
      else bench
  | some (.busy moment ending) => if moment ≤ bench.clock then bench.finish ending else bench

/-- The moment at which the run in flight will end by itself. -/
def moment? (bench : Bench) : Option (Nat × Ending) :=
  match bench.progress with
  | some (.busy moment ending) => some (moment, ending)
  | _ => none

/-- Waits for the run in flight to end, but less than the given time. A run that would end just then
is still in flight afterwards. -/
def await (bench : Bench) (time : Nat) : Bench :=
  match bench.moment? with
  | some (moment, ending) =>
      if moment < bench.clock + time then { bench with clock := moment }.finish ending
      else { bench with clock := bench.clock + time }
  | none => { bench with clock := bench.clock + time }

/-- The arranged run that begins next, which may go at once if it is not blocked. -/
def begin (bench : Bench) : Bench :=
  let run := bench.arranged.headD .plain
  let bench := { bench with arranged := bench.arranged.tail }
  if run.blocked then { bench with progress := some (.blocked run) }.settle
  else { bench with progress := some (.busy (bench.clock + run.duration) run.ending) }.settle

/-- A new caller asks for a run, and everything settles. Gives the caller's number. -/
def trigger (bench : Bench) : Nat × Bench :=
  let caller := bench.callers
  let bench := { bench with callers := caller + 1 }
  match bench.runner.trigger caller with
  | (some outcome, runner) =>
      (caller, { bench with runner := runner, told := bench.told ++ [(caller, outcome)] })
  | (none, runner) => (caller, { bench with runner := runner }.begin)

def outcome? (bench : Bench) (caller : Nat) : Option Outcome :=
  (bench.told.find? (·.1 = caller)).map (·.2)

def hour : Nat := 60 * 60 * 1000

def awaitCaller (bench : Bench) (caller : Nat) : Option Outcome × Bench :=
  match bench.outcome? caller with
  | some outcome => (some outcome, bench)
  | none =>
      let bench := bench.await hour
      (bench.outcome? caller, bench)

/-- Asks for a run and waits for its outcome; after an hour the caller leaves. -/
def run (bench : Bench) : Option Outcome × Bench :=
  let (caller, bench) := bench.trigger
  match bench.awaitCaller caller with
  | (some outcome, bench) => (some outcome, bench)
  | (none, bench) => (none, { bench with runner := bench.runner.leave caller })

def start (bench : Bench) : Bench :=
  let (caller, bench) := bench.settle.trigger
  { bench with pending := caller :: bench.pending }

/-- Lets the waiting run go, or else the next one that waits. -/
def letGo (bench : Bench) : Bench := { bench with permit := true }.settle

/-- Makes the caller started last leave, and tells whether it was still waiting; if so, its leaving
is waited for. -/
def abort (bench : Bench) : Bool × Bench :=
  match bench.pending with
  | [] => (false, bench)
  | caller :: pending =>
      let bench := { bench with pending := pending }
      match bench.outcome? caller with
      | some _ => (false, bench)
      | none => (true, { bench with runner := bench.runner.leave caller }.settle)

def join (bench : Bench) : Option Outcome × Bench :=
  match bench.pending with
  | [] => (none, bench)
  | caller :: pending => { bench with pending := pending }.awaitCaller caller

/-- How long it is waited for the runner to be idle. -/
def patience : Nat := 50

/-- Waits for the runner to be idle, and tells whether it was in time. -/
def waitIdle (bench : Bench) : Bool × Bench :=
  match bench.runner.waitIdle 0 with
  | (true, runner) => (true, { bench with runner := runner })
  | (false, runner) =>
      let bench := { bench with runner := runner }.await patience
      match bench.runner.wake 0 with
      | (true, runner) => (true, { bench with runner := runner })
      | (false, runner) => (false, { bench with runner := runner.giveUp 0 })

def isRunning (bench : Bench) : Bool := bench.runner.isRunning

end Bench

end ClubOffice.Job
