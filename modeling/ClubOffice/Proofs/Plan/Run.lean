import ClubOffice.Plan.Interleaving

/-!
# Exchanges one after the other

What can be exchanged with a state that nobody else changes, request after request, in whichever
manner each of them is replied to.
-/

namespace ClubOffice.Manner

variable {P : Interface} {σ : Type} {manner : Manner P σ}
variable {first last : σ} {asked : List (Exchange P)}

/-- The exchanges can be made one after the other, from the first state to the last. -/
inductive Run (manner : Manner P σ) : σ → List (Exchange P) → σ → Prop
  | nil (state : σ) : Run manner state [] state
  | cons {request : P.Request} {reply : P.Reply request} {first next last : σ}
      {asked : List (Exchange P)} (replied : manner request first reply next)
      (onward : Run manner next asked last) : Run manner first (⟨request, reply⟩ :: asked) last

theorem run_nil_iff : Run manner first [] last ↔ last = first := by
  constructor
  · intro run
    cases run
    rfl
  · rintro rfl
    exact .nil _

theorem run_cons_iff {exchange : Exchange P} :
    Run manner first (exchange :: asked) last ↔
      ∃ next, manner exchange.1 first exchange.2 next ∧ Run manner next asked last := by
  constructor
  · intro run
    cases run with
    | cons replied onward => exact ⟨_, replied, onward⟩
  · rintro ⟨next, replied, onward⟩
    exact .cons replied onward

end ClubOffice.Manner
