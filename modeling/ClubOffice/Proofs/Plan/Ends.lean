import ClubOffice.Proofs.Plan.Course

/-!
# Ends of plans

The results that a plan can be done with, whatever it is replied with. What comes after a plan
matters only for these.
-/

namespace ClubOffice.Plan

variable {P : Interface} {α β : Type} {plan : Plan P α}

/-- Whether a plan can be done with the result. -/
def Ends (plan : Plan P α) (result : α) : Prop := ∃ asked, Course plan asked (.done result)

theorem ends_done (result : α) : Ends (.done result : Plan P α) result := ⟨[], .still _⟩

theorem ends_done_iff {result final : α} :
    Ends (.done result : Plan P α) final ↔ final = result := by
  constructor
  · rintro ⟨asked, course⟩
    obtain ⟨_, same⟩ := course_done_iff.1 course
    injection same
  · rintro rfl
    exact ends_done final

theorem Ends.ask {request : P.Request} {next : P.Reply request → Plan P α} {result : α}
    (reply : P.Reply request) (ends : Ends (next reply) result) :
    Ends (.ask request next) result := by
  obtain ⟨asked, course⟩ := ends
  exact ⟨_, .ask reply course⟩

theorem ends_ask_iff {request : P.Request} {next : P.Reply request → Plan P α} {result : α} :
    Ends (.ask request next) result ↔ ∃ reply, Ends (next reply) result := by
  constructor
  · rintro ⟨asked, course⟩
    rcases course_ask_iff.1 course with ⟨_, same⟩ | ⟨reply, later, _, onward⟩
    · cases same
    · exact ⟨reply, later, onward⟩
  · rintro ⟨reply, ends⟩
    exact ends.ask reply

theorem Ends.bind {after : α → Plan P β} {result : α} {final : β} (ends : Ends plan result)
    (later : Ends (after result) final) : Ends (plan.bind after) final := by
  induction plan with
  | done found =>
      obtain ⟨asked, course⟩ := ends
      obtain ⟨_, same⟩ := course_done_iff.1 course
      cases same
      exact later
  | ask request next ih =>
      obtain ⟨reply, ends⟩ := ends_ask_iff.1 ends
      exact (ih reply ends).ask reply

theorem ends_bind_iff {after : α → Plan P β} {final : β} :
    Ends (plan.bind after) final ↔ ∃ result, Ends plan result ∧ Ends (after result) final := by
  constructor
  · rintro ⟨asked, course⟩
    obtain ⟨first, second, result, _, whole, last⟩ := course.of_bind_done
    exact ⟨result, ⟨first, whole⟩, ⟨second, last⟩⟩
  · rintro ⟨result, ends, later⟩
    exact ends.bind later

/-- Two continuations do the same after a plan if they do so after each of its ends. -/
theorem bind_congr {after after' : α → Plan P β}
    (same : ∀ result, Ends plan result → after result = after' result) :
    plan.bind after = plan.bind after' := by
  induction plan with
  | done result => exact same result (ends_done result)
  | ask request next ih =>
      refine congrArg (Plan.ask request) (funext fun reply => ih reply fun result ends => ?_)
      exact same result (ends.ask reply)

/-- What is at hand as well makes no difference to how a plan can end. -/
theorem ends_inLeft_iff {Q : Interface} {result : α} :
    Ends (plan.inLeft : Plan (P.plus Q) α) result ↔ Ends plan result := by
  induction plan with
  | done found => rw [inLeft, ends_done_iff, ends_done_iff]
  | ask request next ih =>
      rw [inLeft, ends_ask_iff, ends_ask_iff]
      exact exists_congr fun reply => ih reply

section Through

variable {S : Interface}

/-- Carries a plan out by way of a service, which is asked each of its requests. -/
def through (service : Service S P) : Plan S α → Plan P α
  | .done result => .done result
  | .ask request next => (service request).bind fun reply => (next reply).through service

theorem ends_through_ask_iff {service : Service S P} {request : S.Request}
    {next : S.Reply request → Plan S α} {result : α} :
    Ends ((Plan.ask request next).through service) result ↔
      ∃ reply, Ends (service request) reply ∧ Ends ((next reply).through service) result :=
  ends_bind_iff

end Through

end ClubOffice.Plan
