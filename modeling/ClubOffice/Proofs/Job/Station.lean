import ClubOffice.Proofs.Job.Guard
import ClubOffice.Proofs.Keyed
import Mathlib.Data.List.Perm.Basic
import Mathlib.Data.List.Range

/-!
# Stations

A station is a runner among all who use it: callers that ask for runs, wait for them and may leave,
runs that end in one way or another, and waiters. Everything that happens is noted, so that it can
be told for each run who started it and how it ended, and for each caller what became of it.
-/

namespace ClubOffice.Job

/-- What can happen at a station. A call of `runOnce` is that of a new caller. -/
inductive Action
  | runOnce
  | finish (number : Nat) (ending : Ending)
  | hear (caller : Nat)
  | leave (caller : Nat)
  | isRunning
  | waitIdle (waiter : Nat)
  | wake (waiter : Nat)
  | giveUp (waiter : Nat)
deriving DecidableEq

inductive Notice
  | started (caller number : Nat)
  | ended (number : Nat) (ending : Ending)
  | told (caller : Nat) (outcome : Outcome)
  | left (caller : Nat)
  | running (answer : Bool)
  | idle (waiter : Nat)
deriving DecidableEq

namespace Notice

def started? : Notice → Option (Nat × Nat)
  | .started caller number => some (caller, number)
  | _ => none

def ended? : Notice → Option (Nat × Ending)
  | .ended number ending => some (number, ending)
  | _ => none

/-- The caller that has been told, or has left. -/
def departed? : Notice → Option Nat
  | .told caller _ => some caller
  | .left caller => some caller
  | _ => none

/-- Whether a notice says nothing of runs or of those who asked for them. -/
def isSilent : Notice → Bool
  | .running _ | .idle _ => true
  | _ => false

variable {notice : Notice}

theorem started?_of_isSilent (silent : notice.isSilent = true) : notice.started? = none := by
  cases notice <;> first | rfl | cases silent

theorem ended?_of_isSilent (silent : notice.isSilent = true) : notice.ended? = none := by
  cases notice <;> first | rfl | cases silent

theorem departed?_of_isSilent (silent : notice.isSilent = true) : notice.departed? = none := by
  cases notice <;> first | rfl | cases silent

theorem filterMap_append_silent {α : Type} {read : Notice → Option α}
    (unread : ∀ {notice : Notice}, notice.isSilent = true → read notice = none)
    (log : List Notice) {notices : List Notice}
    (silent : ∀ notice ∈ notices, notice.isSilent = true) :
    (log ++ notices).filterMap read = log.filterMap read := by
  rw [List.filterMap_append, List.filterMap_eq_nil_iff.2 fun notice member =>
    unread (silent notice member), List.append_nil]

end Notice

open Notice

/-- A runner, the number of callers so far, and what was noted. -/
structure Station where
  runner : Runner
  callers : Nat
  log : List Notice
deriving DecidableEq

namespace Station

def start : Station := ⟨.idle, 0, []⟩

def note (station : Station) (runner : Runner) (notices : List Notice) : Station :=
  { station with runner := runner, log := station.log ++ notices }

/-- Something happens; what cannot happen now changes nothing. -/
def act (station : Station) : Action → Station
  | .runOnce =>
      let called := { station with callers := station.callers + 1 }
      match station.runner.trigger station.callers with
      | (some outcome, runner) => called.note runner [.told station.callers outcome]
      | (none, runner) => called.note runner [.started station.callers station.runner.started]
  | .finish number ending =>
      if number ∈ station.runner.live then
        station.note (station.runner.finish number ending) [.ended number ending]
      else station
  | .hear caller =>
      match station.runner.hear caller with
      | (some outcome, runner) => station.note runner [.told caller outcome]
      | (none, _) => station
  | .leave caller =>
      if (station.runner.awaited? caller).isSome then
        station.note (station.runner.leave caller) [.left caller]
      else station
  | .isRunning => station.note station.runner [.running station.runner.isRunning]
  | .waitIdle waiter =>
      match station.runner.waitIdle waiter with
      | (true, runner) => station.note runner [.idle waiter]
      | (false, runner) => station.note runner []
  | .wake waiter =>
      match station.runner.wake waiter with
      | (true, runner) => station.note runner [.idle waiter]
      | (false, _) => station
  | .giveUp waiter => station.note (station.runner.giveUp waiter) []

def play (actions : List Action) : Station := actions.foldl act start

/-- What was noted accounts for the runner: for the runs that were started, for those that have
ended, and for the callers. -/
structure Recorded (station : Station) : Prop where
  starts : (station.log.filterMap started?).map (·.2) = List.range station.runner.started
  owners : ((station.log.filterMap started?).map (·.1)).Sublist (List.range station.callers)
  runs : ((station.log.filterMap ended?).map (·.1) ++ station.runner.live).Perm
    (List.range station.runner.started)
  results : station.runner.ended =
    (station.log.filterMap ended?).map fun run => (run.1, run.2.outcome)
  calls : (station.runner.callers.map (·.1) ++ station.log.filterMap departed?).Perm
    (List.range station.callers)
  waiting : ∀ pair ∈ station.runner.callers, pair ∈ station.log.filterMap started?
  heard : ∀ caller outcome, .told caller outcome ∈ station.log → outcome = .skipped ∨
    ∃ number ending, (caller, number) ∈ station.log.filterMap started? ∧
      (number, ending) ∈ station.log.filterMap ended? ∧ outcome = ending.outcome

/-- What each thing that can be asked of a runner keeps is kept by whatever happens. -/
theorem keeps_act {Kept : Runner → Prop} {station : Station} {action : Action}
    (kept : Kept station.runner) (trigger : ∀ caller, Kept (station.runner.trigger caller).2)
    (finish : ∀ number ending, Kept (station.runner.finish number ending))
    (leave : ∀ caller, Kept (station.runner.leave caller))
    (waitIdle : ∀ waiter, action = .waitIdle waiter → Kept (station.runner.waitIdle waiter).2)
    (wake : ∀ waiter, Kept (station.runner.wake waiter).2)
    (giveUp : ∀ waiter, Kept (station.runner.giveUp waiter)) :
    Kept (station.act action).runner := by
  cases action with
  | runOnce =>
      have after := trigger station.callers
      simp only [act]
      split <;> rename_i done <;> rw [done] at after <;> exact after
  | finish number ending =>
      simp only [act]
      split
      · exact finish number ending
      · exact kept
  | hear caller =>
      simp only [act]
      split
      · rename_i heard
        obtain ⟨_, _, _, rfl⟩ := Runner.of_hear heard
        exact leave caller
      · exact kept
  | leave caller =>
      simp only [act]
      split
      · exact leave caller
      · exact kept
  | isRunning => exact kept
  | waitIdle waiter =>
      have after := waitIdle waiter rfl
      simp only [act]
      split <;> rename_i done <;> rw [done] at after <;> exact after
  | wake waiter =>
      have after := wake waiter
      simp only [act]
      split
      · rename_i done
        rw [done] at after
        exact after
      · exact kept
  | giveUp waiter => exact giveUp waiter

theorem guarded_act {station : Station} (guarded : station.runner.Guarded) (action : Action) :
    (station.act action).runner.Guarded :=
  keeps_act guarded guarded.trigger guarded.finish guarded.leave
    (fun waiter _ => guarded.waitIdle waiter) guarded.wake guarded.giveUp

namespace Recorded

variable {station : Station}

theorem start : Station.start.Recorded where
  starts := rfl
  owners := .slnil
  runs := .refl _
  results := rfl
  calls := .refl _
  waiting := List.forall_mem_nil _
  heard _ _ told := nomatch told

theorem silent (recorded : station.Recorded) {runner : Runner} {notices : List Notice}
    (started : runner.started = station.runner.started) (live : runner.live = station.runner.live)
    (ended : runner.ended = station.runner.ended)
    (callers : runner.callers = station.runner.callers)
    (silent : ∀ notice ∈ notices, notice.isSilent = true) :
    (station.note runner notices).Recorded := by
  have starts := filterMap_append_silent started?_of_isSilent station.log silent
  have ends := filterMap_append_silent ended?_of_isSilent station.log silent
  have departs := filterMap_append_silent departed?_of_isSilent station.log silent
  constructor <;> simp only [note, starts, ends, departs, started, live, ended, callers]
  · exact recorded.starts
  · exact recorded.owners
  · exact recorded.runs
  · exact recorded.results
  · exact recorded.calls
  · exact recorded.waiting
  · intro caller outcome told
    rcases List.mem_append.1 told with earlier | now
    · exact recorded.heard caller outcome earlier
    · cases silent _ now

/-- A caller that waits no longer because it was told, or because it left. -/
theorem depart (recorded : station.Recorded) {caller : Nat} {notice : Notice}
    (waits : caller ∈ station.runner.callers.map (·.1)) (unstarted : notice.started? = none)
    (unended : notice.ended? = none) (departed : notice.departed? = some caller)
    (right : ∀ other outcome, notice = .told other outcome → outcome = .skipped ∨
      ∃ number ending, (other, number) ∈ station.log.filterMap started? ∧
        (number, ending) ∈ station.log.filterMap ended? ∧ outcome = ending.outcome) :
    (station.note (station.runner.leave caller) [notice]).Recorded := by
  have starts : (station.log ++ [notice]).filterMap started? = station.log.filterMap started? := by
    simp [unstarted]
  have ends : (station.log ++ [notice]).filterMap ended? = station.log.filterMap ended? := by
    simp [unended]
  have distinct : (station.runner.callers.map (·.1)).Nodup :=
    (recorded.calls.nodup_iff.2 List.nodup_range).of_append_left
  constructor <;> simp only [note, starts, ends, Runner.leave]
  · exact recorded.starts
  · exact recorded.owners
  · exact recorded.runs
  · exact recorded.results
  · obtain ⟨pair, member, rfl⟩ := List.mem_map.1 waits
    have without := ((Keyed.perm_cons_filter distinct member).map (·.1)).append_right
      (station.log.filterMap departed?)
    refine .trans ?_ (without.symm.trans recorded.calls)
    rw [List.filterMap_append, List.filterMap_cons_some departed, List.filterMap_nil,
      ← List.append_assoc]
    exact List.perm_append_comm
  · exact fun pair member => recorded.waiting pair (List.mem_of_mem_filter member)
  · intro other outcome told
    rcases List.mem_append.1 told with earlier | now
    · exact recorded.heard other outcome earlier
    · exact right other outcome (List.mem_singleton.1 now).symm

theorem runOnce (recorded : station.Recorded) : (station.act .runOnce).Recorded := by
  have range : List.range (station.callers + 1) = List.range station.callers ++ [station.callers] :=
    List.range_succ
  rcases station.runner.trigger_cases station.callers with ⟨_, skipped⟩ | ⟨_, begun⟩
  · simp only [act, skipped]
    constructor <;> simp only [note, List.filterMap_append, List.filterMap_cons,
      List.filterMap_nil, started?, ended?, departed?, List.append_nil, range]
    · exact recorded.starts
    · exact recorded.owners.trans (List.sublist_append_left _ _)
    · exact recorded.runs
    · exact recorded.results
    · rw [← List.append_assoc]
      exact recorded.calls.append_right _
    · exact recorded.waiting
    · intro caller outcome told
      rcases List.mem_append.1 told with earlier | now
      · exact recorded.heard caller outcome earlier
      · cases List.mem_singleton.1 now
        exact .inl rfl
  · simp only [act, begun]
    constructor <;> simp only [note, List.filterMap_append, List.filterMap_cons,
      List.filterMap_nil, started?, ended?, departed?, List.append_nil, range, List.map_append,
      List.map_cons, List.map_nil]
    · rw [recorded.starts, List.range_succ]
    · exact recorded.owners.append (.refl _)
    · rw [← List.append_assoc, List.range_succ]
      exact recorded.runs.append_right _
    · exact recorded.results
    · rw [List.append_assoc]
      exact (List.perm_append_comm.append_left _).trans
        ((List.append_assoc _ _ _).symm ▸ recorded.calls.append_right _)
    · intro pair member
      rcases List.mem_append.1 member with earlier | now
      · exact List.mem_append_left _ (recorded.waiting pair earlier)
      · exact List.mem_append_right _ now
    · intro caller outcome told
      rcases List.mem_append.1 told with earlier | now
      · refine (recorded.heard caller outcome earlier).imp id ?_
        rintro ⟨number, ending, began, rest⟩
        exact ⟨number, ending, List.mem_append_left _ began, rest⟩
      · cases List.mem_singleton.1 now

theorem finish (recorded : station.Recorded) (number : Nat) (ending : Ending) :
    (station.act (.finish number ending)).Recorded := by
  simp only [act]
  split
  · rename_i member
    obtain ⟨holder, line, done⟩ := Runner.finish_eq member ending
    rw [done]
    constructor <;> simp only [note, List.filterMap_append, List.filterMap_cons,
      List.filterMap_nil, started?, ended?, departed?, List.append_nil, List.map_append,
      List.map_cons, List.map_nil]
    · exact recorded.starts
    · exact recorded.owners
    · refine .trans ?_ recorded.runs
      rw [List.append_assoc]
      exact (List.perm_cons_erase member).symm.append_left _
    · rw [recorded.results]
    · exact recorded.calls
    · exact recorded.waiting
    · intro caller outcome told
      rcases List.mem_append.1 told with earlier | now
      · refine (recorded.heard caller outcome earlier).imp id ?_
        rintro ⟨number, ending, began, ended, same⟩
        exact ⟨number, ending, began, List.mem_append_left _ ended, same⟩
      · cases List.mem_singleton.1 now
  · exact recorded

theorem leave (recorded : station.Recorded) (caller : Nat) :
    (station.act (.leave caller)).Recorded := by
  simp only [act]
  split
  · rename_i waits
    obtain ⟨number, awaited⟩ := Option.isSome_iff_exists.1 waits
    refine recorded.depart ?_ rfl rfl rfl (fun _ _ told => nomatch told)
    exact List.mem_map_of_mem (f := Prod.fst) (Runner.of_awaited? awaited)
  · exact recorded

theorem hear (recorded : station.Recorded) (caller : Nat) :
    (station.act (.hear caller)).Recorded := by
  simp only [act]
  split
  · rename_i outcome after heard
    obtain ⟨number, waiting, ended, rfl⟩ := Runner.of_hear heard
    refine recorded.depart (List.mem_map_of_mem (f := Prod.fst) waiting) rfl rfl rfl ?_
    intro other result told
    cases told
    rw [recorded.results] at ended
    obtain ⟨⟨run, ending⟩, member, same⟩ := List.mem_map.1 ended
    cases same
    exact .inr ⟨run, ending, recorded.waiting _ waiting, member, rfl⟩
  · exact recorded

theorem act (recorded : station.Recorded) (action : Action) : (station.act action).Recorded := by
  cases action with
  | runOnce => exact recorded.runOnce
  | finish number ending => exact recorded.finish number ending
  | hear caller => exact recorded.hear caller
  | leave caller => exact recorded.leave caller
  | isRunning => exact recorded.silent rfl rfl rfl rfl (List.forall_mem_singleton.2 rfl)
  | waitIdle waiter =>
      simp only [Station.act, Runner.waitIdle]
      cases station.runner.isRunning with
      | true => exact recorded.silent rfl rfl rfl rfl (List.forall_mem_nil _)
      | false => exact recorded.silent rfl rfl rfl rfl (List.forall_mem_singleton.2 rfl)
  | wake waiter =>
      obtain ⟨holder, line, same⟩ := station.runner.release_eq
      simp only [Station.act, Runner.wake]
      by_cases given : station.runner.holder = some (.waiter waiter)
      · simp only [if_pos given, same]
        exact recorded.silent rfl rfl rfl rfl (List.forall_mem_singleton.2 rfl)
      · simp only [if_neg given]
        exact recorded
  | giveUp waiter =>
      obtain ⟨holder, line, same⟩ := station.runner.release_eq
      simp only [Station.act, Runner.giveUp]
      split
      · rw [same]
        exact recorded.silent rfl rfl rfl rfl (List.forall_mem_nil _)
      · exact recorded.silent rfl rfl rfl rfl (List.forall_mem_nil _)

end Recorded

end Station

end ClubOffice.Job
