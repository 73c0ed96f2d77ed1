import ClubOffice.Proofs.Job.Turns

/-!
# What a runner says of itself

A runner tells whether a run is in flight by whether its guard is held, and skips a run for the same
reason. When a run ends while somebody waits in line, the guard goes to the waiter before the waiter
notices. Until then the guard is held although no run is in flight, and what the runner says is not
true. At all other times it is.
-/

namespace ClubOffice.Job

namespace Runner

variable {runner : Runner}

/-- Whether the guard has gone to a waiter that has not put it back. -/
def HandedOver (runner : Runner) : Prop := ∃ waiter, runner.holder = some (.waiter waiter)

theorem Guarded.isRunning_iff (guarded : runner.Guarded) :
    runner.isRunning = true ↔ runner.live ≠ [] ∨ runner.HandedOver := by
  constructor
  · intro running
    obtain ⟨holder, held⟩ := Option.isSome_iff_exists.1 running
    cases holder with
    | run number => exact .inl (List.ne_nil_of_mem (guarded.owned number held))
    | waiter name => exact .inr ⟨name, held⟩
  · rintro (flying | ⟨waiter, held⟩)
    · obtain ⟨number, member⟩ := List.exists_mem_of_ne_nil _ flying
      rw [isRunning, guarded.held number member]
      rfl
    · rw [isRunning, held]
      rfl

theorem Guarded.live_of_handedOver (guarded : runner.Guarded) (handedOver : runner.HandedOver) :
    runner.live = [] := by
  obtain ⟨waiter, held⟩ := handedOver
  exact guarded.live_of_waiter held

/-- The guard tells of a run in flight, just if it has not been handed over. -/
theorem Guarded.isRunning_true_iff (guarded : runner.Guarded) :
    (runner.isRunning = true → runner.live ≠ []) ↔ ¬ runner.HandedOver := by
  rw [guarded.isRunning_iff]
  constructor
  · exact fun tells handedOver => tells (.inr handedOver) (guarded.live_of_handedOver handedOver)
  · exact fun kept running => running.resolve_right kept

/-- Nobody waits in line for the guard, and it has not been handed over. -/
structure Unawaited (runner : Runner) : Prop where
  line : runner.line = []
  kept : ¬ runner.HandedOver

namespace Unawaited

theorem idle : Runner.idle.Unawaited := ⟨rfl, fun ⟨_, held⟩ => nomatch held⟩

theorem release (unawaited : runner.Unawaited) : runner.release.Unawaited := by
  have same : runner.release = { runner with holder := none } := by
    unfold Runner.release
    rw [unawaited.line]
  rw [same]
  exact ⟨unawaited.line, fun ⟨_, held⟩ => nomatch held⟩

theorem trigger (unawaited : runner.Unawaited) (caller : Nat) :
    (runner.trigger caller).2.Unawaited := by
  rcases runner.trigger_cases caller with ⟨_, skipped⟩ | ⟨_, begun⟩
  · rw [skipped]
    exact unawaited
  · rw [begun]
    exact ⟨unawaited.line, fun ⟨_, held⟩ => nomatch held⟩

theorem finish (unawaited : runner.Unawaited) (number : Nat) (ending : Ending) :
    (runner.finish number ending).Unawaited := by
  unfold Runner.finish releaseFrom
  split
  · split
    · exact release ⟨unawaited.line, unawaited.kept⟩
    · exact ⟨unawaited.line, unawaited.kept⟩
  · exact unawaited

theorem leave (unawaited : runner.Unawaited) (caller : Nat) : (runner.leave caller).Unawaited :=
  ⟨unawaited.line, unawaited.kept⟩

theorem wake (unawaited : runner.Unawaited) (waiter : Nat) : (runner.wake waiter).2.Unawaited := by
  have other : runner.holder ≠ some (.waiter waiter) := fun held => unawaited.kept ⟨waiter, held⟩
  rw [Runner.wake, if_neg other]
  exact unawaited

theorem giveUp (unawaited : runner.Unawaited) (waiter : Nat) :
    (runner.giveUp waiter).Unawaited := by
  have other : runner.holder ≠ some (.waiter waiter) := fun held => unawaited.kept ⟨waiter, held⟩
  rw [Runner.giveUp, if_neg other]
  exact ⟨by rw [unawaited.line]; rfl, unawaited.kept⟩

end Unawaited

end Runner

namespace Station

variable {station : Station}

/-- Whether it is true what would be said now: whoever is skipped is skipped because of a run in
flight, and there is one if it is said that there is. -/
structure Truthful (station : Station) : Prop where
  skips : ∀ caller, (station.act .runOnce).log = station.log ++ [.told caller .skipped] →
    station.runner.live ≠ []
  answers : (station.act .isRunning).log = station.log ++ [.running true] →
    station.runner.live ≠ []

theorem skips_iff : (∃ caller, (station.act .runOnce).log =
    station.log ++ [.told caller .skipped]) ↔ station.runner.isRunning = true := by
  rcases station.runner.trigger_cases station.callers with ⟨running, skipped⟩ | ⟨free, begun⟩
  · simp [act, note, skipped, running]
  · simp [act, note, begun, Runner.isRunning_eq_false_iff.2 free]

theorem answers_iff : (station.act .isRunning).log = station.log ++ [.running true] ↔
    station.runner.isRunning = true := by
  simp [act, note]

theorem truthful_iff (guarded : station.runner.Guarded) :
    station.Truthful ↔ ¬ station.runner.HandedOver := by
  rw [← guarded.isRunning_true_iff]
  constructor
  · exact fun truthful running => truthful.answers (answers_iff.2 running)
  · intro tells
    exact ⟨fun caller skipped => tells (skips_iff.1 ⟨caller, skipped⟩),
      fun answered => tells (answers_iff.1 answered)⟩

theorem unawaited_act (unawaited : station.runner.Unawaited) {action : Action}
    (other : ∀ waiter, action ≠ .waitIdle waiter) : (station.act action).runner.Unawaited :=
  keeps_act unawaited unawaited.trigger unawaited.finish unawaited.leave
    (fun waiter same => absurd same (other waiter)) unawaited.wake unawaited.giveUp

theorem unawaited_play {actions : List Action} (unasked : ∀ waiter, .waitIdle waiter ∉ actions) :
    (play actions).runner.Unawaited :=
  List.foldlRecOn (motive := fun station => station.runner.Unawaited) actions act .idle
    fun _ unawaited _ member =>
      unawaited_act unawaited fun waiter same => unasked waiter (same ▸ member)

end Station

/-- Whatever has happened in whatever order, what a runner says then, when it is asked whether it is
running or for a run, is true just if its guard has not been handed over to a waiter. As long as
nobody waits for the runner to be idle, it never has. -/
theorem runner_is_truthful_iff (actions : List Action) :
    ((Station.play actions).Truthful ↔ ¬ (Station.play actions).runner.HandedOver) ∧
      ((∀ waiter, .waitIdle waiter ∉ actions) → (Station.play actions).Truthful) := by
  have truthful := Station.truthful_iff (Station.guarded_play actions)
  exact ⟨truthful, fun unasked => truthful.2 (Station.unawaited_play unasked).kept⟩

/-- A run that is skipped while another is in flight, and one that is started after that. -/
def relay : List Action := [.runOnce, .runOnce, .leave 0, .finish 0 (.report 3), .runOnce]

theorem relay_is_truthful :
    (Station.play relay).runner.live = [1] ∧ (Station.play relay).Truthful := by
  have unasked : ∀ waiter, .waitIdle waiter ∉ relay := by
    intro waiter
    simp [relay]
  exact ⟨rfl, (runner_is_truthful_iff relay).2 unasked⟩

/-- A run ends while somebody waits for that. -/
def relief : List Action := [.runOnce, .waitIdle 7, .finish 0 (.report 3)]

/-- Before the waiter notices, it is said that a run is in flight, and whoever asks for a run is
skipped; but there is none. -/
theorem relief_is_untruthful :
    (Station.play relief).runner.live = [] ∧
      (Station.play (relief ++ [.isRunning])).log.getLast? = some (.running true) ∧
      (Station.play (relief ++ [.runOnce])).log.getLast? = some (.told 1 .skipped) ∧
      ¬ (Station.play relief).Truthful := by
  refine ⟨rfl, rfl, rfl, fun truthful => truthful.answers ?_ rfl⟩
  rfl

end ClubOffice.Job
