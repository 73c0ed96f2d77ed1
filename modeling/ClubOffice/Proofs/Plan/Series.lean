import ClubOffice.Proofs.Plan.Course
import ClubOffice.Proofs.Plan.Run

/-!
# Calls one after the other

Calls of a service that are made in turn, each of them to its end before the next one begins. Nobody
changes the state during a call; between two calls it may change by itself.
-/

namespace ClubOffice

open Manner Plan

variable {S P : Interface} {σ : Type} {service : Service S P} {manner : Manner P σ}
variable {drift : σ → σ → Prop}

/-- A call that was made: what it exchanged, and the result that it came to. -/
structure Visit (S P : Interface) where
  call : S.Request
  asked : List (Exchange P)
  result : S.Reply call

/-- The calls can be made one after the other, from the first state to the last. -/
inductive Series (service : Service S P) (manner : Manner P σ) (drift : σ → σ → Prop) (first : σ) :
    List (Visit S P) → σ → Prop
  | nil : Series service manner drift first [] first
  | snoc {last after : σ} {visits : List (Visit S P)} {call : S.Request}
      {asked : List (Exchange P)} {result : S.Reply call}
      (earlier : Series service manner drift first visits last)
      (course : (service call).Course asked (.done result)) (run : Run manner last asked after) :
      Series service manner drift first (visits ++ [⟨call, asked, result⟩]) after
  | drift {last after : σ} {visits : List (Visit S P)}
      (earlier : Series service manner drift first visits last) (drifted : drift last after) :
      Series service manner drift first visits after

namespace Series

variable {first between last : σ} {visits later : List (Visit S P)}

theorem append (series : Series service manner drift first visits between)
    (onward : Series service manner drift between later last) :
    Series service manner drift first (visits ++ later) last := by
  induction onward with
  | nil => rwa [List.append_nil]
  | snoc _ course run ih =>
      rw [← List.append_assoc]
      exact .snoc ih course run
  | drift _ drifted ih => exact .drift ih drifted

end Series

section Serving

variable {serve : Server P σ} {test : σ → Exchange P → Bool}

/-- Whether all that a server replies to a plan passes a test. -/
def Plan.passes {α : Type} (test : σ → Exchange P → Bool) (serve : Server P σ) :
    Plan P α → σ → Bool
  | .done _, _ => true
  | .ask request next, state =>
      test state ⟨request, (serve request state).1⟩ &&
        (next (serve request state).1).passes test serve (serve request state).2

/-- Makes the calls one after the other, against a server. -/
def visitEach (service : Service S P) (serve : Server P σ) :
    List S.Request → σ → List (Visit S P) × σ
  | [], state => ([], state)
  | call :: calls, state =>
      let (result, after) := (service call).run serve state
      let (later, last) := visitEach service serve calls after
      (⟨call, (service call).transcript serve state, result⟩ :: later, last)

/-- Whether all that a server replies to the calls passes a test. -/
def visitsPass (test : σ → Exchange P → Bool) (service : Service S P) (serve : Server P σ) :
    List S.Request → σ → Bool
  | [], _ => true
  | call :: calls, state =>
      (service call).passes test serve state &&
        visitsPass test service serve calls ((service call).run serve state).2

variable (obeys : ∀ request state, test state ⟨request, (serve request state).1⟩ = true →
  manner request state (serve request state).1 (serve request state).2)

include obeys

theorem run_of_passes {α : Type} {plan : Plan P α} {state : σ}
    (passes : plan.passes test serve state = true) :
    Run manner state (plan.transcript serve state) (plan.run serve state).2 := by
  induction plan generalizing state with
  | done result => exact .nil state
  | ask request next ih =>
      obtain ⟨now, later⟩ := Bool.and_eq_true_iff.1 passes
      exact .cons (obeys request state now) (ih _ later)

theorem series_of_visitsPass {calls : List S.Request} {state : σ}
    (pass : visitsPass test service serve calls state = true) :
    Series service manner drift state (visitEach service serve calls state).1
      (visitEach service serve calls state).2 := by
  induction calls generalizing state with
  | nil => exact .nil
  | cons call calls ih =>
      obtain ⟨now, later⟩ := Bool.and_eq_true_iff.1 pass
      have made : Series service manner drift state _ _ :=
        .snoc .nil (course_transcript serve (service call) state)
          (run_of_passes obeys now)
      exact made.append (ih later)

end Serving

end ClubOffice
