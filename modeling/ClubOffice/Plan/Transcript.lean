import ClubOffice.Plan

/-!
# Transcripts

The transcript of a plan is the list of its requests with their replies, in the order in which they
were made. It says everything about what a plan did to a server.
-/

namespace ClubOffice

/-- A request with its reply. -/
abbrev Exchange (P : Interface) := (request : P.Request) × P.Reply request

namespace Plan

variable {P : Interface} {α β σ : Type}

/-- The exchanges of a plan that is carried out against a server. -/
def transcript (serve : Server P σ) : Plan P α → σ → List (Exchange P)
  | .done _, _ => []
  | .ask request next, state =>
      ⟨request, (serve request state).1⟩ ::
        (next (serve request state).1).transcript serve (serve request state).2

theorem transcript_done (serve : Server P σ) (result : α) (state : σ) :
    (Plan.done result).transcript serve state = [] := rfl

theorem transcript_bind (serve : Server P σ) (plan : Plan P α) (after : α → Plan P β)
    (state : σ) :
    (plan.bind after).transcript serve state =
      plan.transcript serve state ++
        (after (plan.run serve state).1).transcript serve (plan.run serve state).2 := by
  induction plan generalizing state with
  | done result => rfl
  | ask request next ih => exact congrArg (_ :: ·) (ih _ _)

end Plan

end ClubOffice
