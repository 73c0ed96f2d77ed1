import ClubOffice.Plan.Transcript

/-!
# Confined plans

A confined plan asks only what is allowed, and does not heed what some of its requests are replied
with. Servers that differ only in these replies carry it out to the same result and are asked the
same requests in the same order.
-/

namespace ClubOffice.Plan

variable {P : Interface} {α β σ τ : Type} {allowed unheard : P.Request → Prop}

/-- Whether a plan asks only what is allowed, and goes on in the same way whatever the unheard
requests are replied with. -/
def Confined (allowed unheard : P.Request → Prop) : Plan P α → Prop
  | .done _ => True
  | .ask request next =>
      allowed request ∧ (unheard request → ∀ reply reply', next reply = next reply') ∧
        ∀ reply, (next reply).Confined allowed unheard

namespace Confined

variable {plan : Plan P α}

theorem bind (confined : plan.Confined allowed unheard) {after : α → Plan P β}
    (later : ∀ result, (after result).Confined allowed unheard) :
    (plan.bind after).Confined allowed unheard := by
  induction plan with
  | done result => exact later result
  | ask request next ih =>
      obtain ⟨permitted, deaf, onward⟩ := confined
      refine ⟨permitted, ?_, fun reply => ih reply (onward reply)⟩
      intro quiet reply reply'
      have same : next reply = next reply' := deaf quiet reply reply'
      simp only [same]

theorem forall_transcript (confined : plan.Confined allowed unheard) (serve : Server P σ)
    (state : σ) : ∀ exchange ∈ plan.transcript serve state, allowed exchange.1 := by
  induction plan generalizing state with
  | done result => exact List.forall_mem_nil _
  | ask request next ih =>
      obtain ⟨permitted, _, onward⟩ := confined
      exact List.forall_mem_cons.2 ⟨permitted, ih _ (onward _) _⟩

/-- Two servers that reply alike to what is heard, from states that stay alike. -/
structure Agree (allowed unheard : P.Request → Prop) (alike : σ → τ → Prop) (serve : Server P σ)
    (serve' : Server P τ) : Prop where
  heard : ∀ request state state', alike state state' → allowed request → ¬ unheard request →
    (serve request state).1 = (serve' request state').1
  kept : ∀ request state state', alike state state' → allowed request →
    alike (serve request state).2 (serve' request state').2

/-- Servers that reply alike to what is heard get a confined plan to ask the same, and to be done
with the same. -/
theorem same_course {alike : σ → τ → Prop} {serve : Server P σ} {serve' : Server P τ}
    (confined : plan.Confined allowed unheard) (agree : Agree allowed unheard alike serve serve')
    {state : σ} {state' : τ} (same : alike state state') :
    (plan.run serve state).1 = (plan.run serve' state').1 ∧
      (plan.transcript serve state).map (·.1) = (plan.transcript serve' state').map (·.1) := by
  induction plan generalizing state state' with
  | done result => exact ⟨rfl, rfl⟩
  | ask request next ih =>
      obtain ⟨permitted, deaf, onward⟩ := confined
      have ahead := ih (serve request state).1 (onward _) (agree.kept request _ _ same permitted)
      -- What the second server replies leads to the same plan, whether it is heard or not.
      have next_eq : next (serve request state).1 = next (serve' request state').1 := by
        by_cases quiet : unheard request
        · exact deaf quiet _ _
        · rw [agree.heard request state state' same permitted quiet]
      rw [next_eq] at ahead
      simp only [run, transcript, List.map_cons]
      rw [next_eq]
      exact ⟨ahead.1, congrArg (request :: ·) ahead.2⟩

end Confined

end ClubOffice.Plan
