import ClubOffice.Job.Runner
import Mathlib.Data.List.Nodup

/-!
# The run guard

Whatever is asked of a runner, a run in flight holds the guard, so that there is at most one, and a
run that holds the guard is in flight.
-/

namespace ClubOffice.Job

theorem Ending.outcome_ne_skipped (ending : Ending) : ending.outcome ≠ .skipped := by
  cases ending <;> exact fun same => nomatch same

namespace Runner

variable {runner : Runner}

theorem isRunning_eq_false_iff : runner.isRunning = false ↔ runner.holder = none := by
  simp [isRunning]

/-- A run in flight holds the guard, and nothing else does that waits for a free guard. -/
structure Guarded (runner : Runner) : Prop where
  held : ∀ number ∈ runner.live, runner.holder = some (.run number)
  once : runner.live.Nodup
  owned : ∀ number, runner.holder = some (.run number) → number ∈ runner.live
  free : runner.holder = none → runner.line = []

/-- At most one run is in flight. -/
theorem Guarded.live_eq (guarded : runner.Guarded) {number : Nat} (member : number ∈ runner.live) :
    runner.live = [number] := by
  have same : ∀ other ∈ runner.live, other = number := by
    intro other present
    have holder := (guarded.held other present).symm.trans (guarded.held number member)
    cases holder
    rfl
  have once := guarded.once
  generalize runner.live = live at member same once ⊢
  rcases live with _ | ⟨first, _ | ⟨second, rest⟩⟩
  · cases member
  · rw [same first List.mem_cons_self]
  · have equal : first = second := (same first (by simp)).trans (same second (by simp)).symm
    simp [equal] at once

theorem Guarded.live_eq_nil (guarded : runner.Guarded)
    (other : ∀ number, runner.holder ≠ some (.run number)) : runner.live = [] :=
  List.eq_nil_iff_forall_not_mem.2 fun number member => other number (guarded.held number member)

theorem Guarded.live_of_free (guarded : runner.Guarded) (free : runner.holder = none) :
    runner.live = [] :=
  guarded.live_eq_nil (by simp [free])

theorem Guarded.live_of_waiter (guarded : runner.Guarded) {waiter : Nat}
    (holder : runner.holder = some (.waiter waiter)) : runner.live = [] :=
  guarded.live_eq_nil (by simp [holder])

theorem trigger_cases (runner : Runner) (caller : Nat) :
    runner.isRunning = true ∧ runner.trigger caller = (some .skipped, runner) ∨
      runner.holder = none ∧ runner.trigger caller = (none,
        { runner with
          holder := some (.run runner.started)
          started := runner.started + 1
          live := runner.live ++ [runner.started]
          callers := runner.callers ++ [(caller, runner.started)] }) := by
  unfold trigger
  cases running : runner.isRunning with
  | true => exact .inl ⟨rfl, rfl⟩
  | false => exact .inr ⟨isRunning_eq_false_iff.1 running, rfl⟩

theorem of_awaited? {caller number : Nat} (awaited : runner.awaited? caller = some number) :
    (caller, number) ∈ runner.callers := by
  obtain ⟨pair, waiting, rfl⟩ := Option.map_eq_some_iff.1 awaited
  have same : pair.1 = caller := by simpa using List.find?_some waiting
  exact same ▸ List.mem_of_find?_eq_some waiting

theorem of_outcome? {number : Nat} {outcome : Outcome}
    (told : runner.outcome? number = some outcome) : (number, outcome) ∈ runner.ended := by
  obtain ⟨result, ended, rfl⟩ := Option.map_eq_some_iff.1 told
  have same : result.1 = number := by simpa using List.find?_some ended
  exact same ▸ List.mem_of_find?_eq_some ended

theorem of_hear {caller : Nat} {outcome : Outcome} {after : Runner}
    (heard : runner.hear caller = (some outcome, after)) :
    ∃ number, (caller, number) ∈ runner.callers ∧ (number, outcome) ∈ runner.ended ∧
      after = runner.leave caller := by
  unfold hear at heard
  split at heard
  · cases heard
  · rename_i found
    cases heard
    obtain ⟨number, awaited, told⟩ := Option.bind_eq_some_iff.1 found
    exact ⟨number, of_awaited? awaited, of_outcome? told, rfl⟩

theorem release_eq (runner : Runner) : ∃ holder line,
    runner.release = { runner with holder := holder, line := line } := by
  unfold release
  split
  · exact ⟨none, runner.line, rfl⟩
  · exact ⟨_, _, rfl⟩

theorem live_release (runner : Runner) : runner.release.live = runner.live := by
  obtain ⟨holder, line, same⟩ := runner.release_eq
  rw [same]

theorem finish_eq {number : Nat} (member : number ∈ runner.live) (ending : Ending) :
    ∃ holder line, runner.finish number ending =
      { runner with
        holder := holder
        line := line
        live := runner.live.erase number
        ended := runner.ended ++ [(number, ending.outcome)] } := by
  unfold finish releaseFrom
  rw [if_pos member]
  split
  · obtain ⟨holder, line, same⟩ := release_eq { runner with
      live := runner.live.erase number
      ended := runner.ended ++ [(number, ending.outcome)] }
    exact ⟨holder, line, same⟩
  · exact ⟨runner.holder, runner.line, rfl⟩

theorem guarded_idle : idle.Guarded where
  held := List.forall_mem_nil _
  once := .nil
  owned _ same := nomatch same
  free _ := rfl

theorem guarded_release (empty : runner.live = []) : runner.release.Guarded where
  held number member := by
    rw [live_release, empty] at member
    cases member
  once := by
    rw [live_release, empty]
    exact .nil
  owned number holder := by
    unfold release at holder
    split at holder <;> cases holder
  free holder := by
    unfold release at holder ⊢
    split
    · assumption
    · rename_i line
      simp only [line] at holder
      cases holder

theorem Guarded.trigger (guarded : runner.Guarded) (caller : Nat) :
    (runner.trigger caller).2.Guarded := by
  unfold Runner.trigger
  split
  · exact guarded
  · rename_i idle
    have free : runner.holder = none := isRunning_eq_false_iff.1 (eq_false_of_ne_true idle)
    have empty := guarded.live_of_free free
    constructor
    · simp [empty]
    · simp [empty]
    · intro number holder
      cases holder
      simp
    · exact fun holder => nomatch holder

theorem Guarded.finish (guarded : runner.Guarded) (number : Nat) (ending : Ending) :
    (runner.finish number ending).Guarded := by
  unfold Runner.finish
  split
  · rename_i member
    unfold releaseFrom
    rw [if_pos (by exact guarded.held number member)]
    exact guarded_release (by simp [guarded.live_eq member])
  · exact guarded

theorem Guarded.leave (guarded : runner.Guarded) (caller : Nat) : (runner.leave caller).Guarded :=
  ⟨guarded.held, guarded.once, guarded.owned, guarded.free⟩

theorem Guarded.waitIdle (guarded : runner.Guarded) (waiter : Nat) :
    (runner.waitIdle waiter).2.Guarded := by
  unfold Runner.waitIdle
  split
  · rename_i running
    refine ⟨guarded.held, guarded.once, guarded.owned, fun free => ?_⟩
    cases running.symm.trans (isRunning_eq_false_iff.2 free)
  · exact guarded

theorem Guarded.wake (guarded : runner.Guarded) (waiter : Nat) :
    (runner.wake waiter).2.Guarded := by
  unfold Runner.wake
  split
  · exact guarded_release (guarded.live_of_waiter ‹_›)
  · exact guarded

theorem Guarded.giveUp (guarded : runner.Guarded) (waiter : Nat) :
    (runner.giveUp waiter).Guarded := by
  unfold Runner.giveUp
  split
  · exact guarded_release (guarded.live_of_waiter ‹_›)
  · refine ⟨guarded.held, guarded.once, guarded.owned, fun free => ?_⟩
    change runner.line.erase waiter = []
    rw [guarded.free free]
    rfl

end Runner

end ClubOffice.Job
