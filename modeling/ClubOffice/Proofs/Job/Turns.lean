import ClubOffice.Proofs.Job.Station

/-!
# Runs take turns

In whatever order a runner is asked for runs, runs end, callers leave and waiters come and go: one
run is in flight at a time, each run is carried to its end, and its caller is told of that end. A
caller that asks again only once it was told, with nobody else around, is never skipped.
-/

namespace ClubOffice.Job

open Notice

namespace Station

variable {station : Station}

theorem guarded_play (actions : List Action) : (play actions).runner.Guarded :=
  List.foldlRecOn (motive := fun station => station.runner.Guarded) actions act
    Runner.guarded_idle fun _ guarded action _ => guarded_act guarded action

theorem Recorded.not_live (recorded : station.Recorded) {number : Nat} {ending : Ending}
    (ended : (number, ending) ∈ station.log.filterMap ended?) : number ∉ station.runner.live := by
  have distinct := recorded.runs.nodup_iff.2 List.nodup_range
  exact fun live => List.disjoint_of_nodup_append distinct
    (List.mem_map_of_mem (f := Prod.fst) ended) live

theorem Recorded.distinct_callers (recorded : station.Recorded) :
    (station.runner.callers.map (·.1)).Nodup :=
  (recorded.calls.nodup_iff.2 List.nodup_range).of_append_left

/-- What can happen where there is one caller, which asks again only once it was told. -/
def Single (station : Station) : Action → Prop
  | .runOnce => station.runner.callers = []
  | .finish _ _ | .hear _ | .isRunning => True
  | .leave _ | .waitIdle _ | .wake _ | .giveUp _ => False

/-- Whether only what a single caller does happens. -/
def OneCaller : Station → List Action → Prop
  | _, [] => True
  | station, action :: later => station.Single action ∧ OneCaller (station.act action) later

/-- Nobody waits for a free guard, a run that holds it is waited for, and nobody was skipped. -/
structure Solitary (station : Station) : Prop where
  line : station.runner.line = []
  awaited : ∀ holder, station.runner.holder = some holder →
    ∃ pair ∈ station.runner.callers, holder = .run pair.2
  unskipped : ∀ caller, .told caller .skipped ∉ station.log

theorem Solitary.unskipped_note (solitary : station.Solitary) {notice : Notice}
    (other : ∀ caller, notice ≠ .told caller .skipped) :
    ∀ caller, .told caller .skipped ∉ station.log ++ [notice] := by
  intro caller told
  rcases List.mem_append.1 told with earlier | now
  · exact solitary.unskipped caller earlier
  · exact other caller (List.mem_singleton.1 now).symm

theorem Solitary.act (solitary : station.Solitary) (guarded : station.runner.Guarded)
    (recorded : station.Recorded) {action : Action} (single : station.Single action) :
    (station.act action).Solitary := by
  cases action with
  | runOnce =>
      have free : station.runner.holder = none := by
        rcases holder : station.runner.holder with _ | holding
        · rfl
        · obtain ⟨pair, waits, _⟩ := solitary.awaited holding holder
          rw [(single : station.runner.callers = [])] at waits
          cases waits
      rcases station.runner.trigger_cases station.callers with ⟨running, _⟩ | ⟨_, begun⟩
      · cases running.symm.trans (Runner.isRunning_eq_false_iff.2 free)
      · simp only [Station.act, begun]
        refine ⟨solitary.line, fun holder held => ?_,
          solitary.unskipped_note fun _ same => by cases same⟩
        cases held
        exact ⟨_, List.mem_append_right _ (List.mem_singleton_self _), rfl⟩
  | finish number ending =>
      simp only [Station.act]
      split
      · rename_i member
        have free : (station.runner.finish number ending).holder = none ∧
            (station.runner.finish number ending).line = [] := by
          simp [Runner.finish, Runner.releaseFrom, Runner.release, member,
            guarded.held number member, solitary.line]
        refine ⟨free.2, fun holder held => ?_, solitary.unskipped_note fun _ same => by cases same⟩
        cases free.1.symm.trans held
      · exact solitary
  | hear caller =>
      simp only [Station.act]
      split
      · rename_i outcome after heard
        obtain ⟨number, waiting, ended, rfl⟩ := Runner.of_hear heard
        rw [recorded.results] at ended
        obtain ⟨⟨run, ending⟩, member, same⟩ := List.mem_map.1 ended
        cases same
        refine ⟨solitary.line, fun holder held => ?_, solitary.unskipped_note fun other now => ?_⟩
        · obtain ⟨pair, waits, rfl⟩ := solitary.awaited holder held
          have differs : pair.1 ≠ caller := by
            intro same
            cases Keyed.eq_of_key recorded.distinct_callers waits waiting same
            exact recorded.not_live member (guarded.owned _ held)
          exact ⟨pair, List.mem_filter.2 ⟨waits, decide_eq_true differs⟩, rfl⟩
        · injection now with _ same
          exact ending.outcome_ne_skipped same
      · exact solitary
  | leave caller => exact single.elim
  | isRunning =>
      exact ⟨solitary.line, solitary.awaited, solitary.unskipped_note fun _ same => by cases same⟩
  | waitIdle waiter => exact single.elim
  | wake waiter => exact single.elim
  | giveUp waiter => exact single.elim

theorem Solitary.foldl (solitary : station.Solitary) (guarded : station.runner.Guarded)
    (recorded : station.Recorded) {actions : List Action} (one : OneCaller station actions) :
    (actions.foldl Station.act station).Solitary := by
  induction actions generalizing station with
  | nil => exact solitary
  | cons action later ih =>
      exact ih (solitary.act guarded recorded one.1) (guarded_act guarded action)
        (recorded.act action) one.2

end Station

end ClubOffice.Job
