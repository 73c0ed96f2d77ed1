import ClubOffice.Proofs.Plan.Course

/-!
# Walks of plans

A plan that is carried out next to other work meets states that it did not leave: between two of its
exchanges the state may drift. Its walk is told by its passages, which are its exchanges with the
states before and after each of them, so that what the plan itself did to the state can be told from
what came to the state by itself.
-/

namespace ClubOffice

/-- An exchange with the states before and after it. -/
structure Passage (P : Interface) (σ : Type) where
  before : σ
  exchange : Exchange P
  after : σ

namespace Passage

variable {P Q : Interface} {σ : Type}

/-- The passage as one of the left interface, if it is one. -/
def left? : Passage (P.plus Q) σ → Option (Passage P σ)
  | ⟨before, ⟨.inl request, reply⟩, after⟩ => some ⟨before, ⟨request, reply⟩, after⟩
  | ⟨_, ⟨.inr _, _⟩, _⟩ => none

theorem filterMap_left? (passed : List (Passage (P.plus Q) σ)) :
    (passed.filterMap left?).map (·.exchange) =
      (passed.map (·.exchange)).filterMap Exchange.left? := by
  induction passed with
  | nil => rfl
  | cons passage passed ih =>
      obtain ⟨before, ⟨request | request, reply⟩, after⟩ := passage
      · exact congrArg (⟨request, reply⟩ :: ·) ih
      · exact ih

section Exchanges

variable {passed : List (Passage P σ)} {exchange second : Exchange P}

theorem of_map_eq_singleton (same : passed.map (·.exchange) = [exchange]) :
    ∃ before after, passed = [⟨before, exchange, after⟩] := by
  obtain ⟨⟨before, asked, after⟩, rfl, rfl⟩ := List.map_eq_singleton_iff.1 same
  exact ⟨before, after, rfl⟩

theorem of_map_eq_pair (same : passed.map (·.exchange) = [exchange, second]) :
    ∃ before after before' after',
      passed = [⟨before, exchange, after⟩, ⟨before', second, after'⟩] := by
  obtain ⟨⟨before, asked, after⟩, later, rfl, rfl, rest⟩ := List.map_eq_cons_iff.1 same
  obtain ⟨before', after', rfl⟩ := of_map_eq_singleton rest
  exact ⟨before, after, before', after', rfl⟩

end Exchanges

/-- Whether none of the passages changes the state. -/
def Idle (passed : List (Passage P σ)) : Prop := ∀ passage ∈ passed, passage.after = passage.before

/-- Whether one passage is of the given kind, and no other one changes the state. -/
inductive ChangesOnce (kind : Passage P σ → Prop) : List (Passage P σ) → Prop
  | intro (earlier : List (Passage P σ)) (passage : Passage P σ) (later : List (Passage P σ))
      (fits : kind passage) (others : Idle (earlier ++ later)) :
      ChangesOnce kind (earlier ++ passage :: later)

variable {kind other : Passage P σ → Prop} {passed : List (Passage P σ)}

theorem ChangesOnce.not_idle (once : ChangesOnce kind passed)
    (changes : ∀ passage, kind passage → passage.after ≠ passage.before) : ¬ Idle passed := by
  obtain ⟨earlier, passage, later, fits, _⟩ := once
  intro idle
  exact changes passage fits (idle passage (List.mem_append_right _ List.mem_cons_self))

/-- The one passage that changes the state is of both kinds. -/
theorem ChangesOnce.both (once : ChangesOnce kind passed) (again : ChangesOnce other passed)
    (changes : ∀ passage, kind passage → passage.after ≠ passage.before) :
    ∃ passage ∈ passed, kind passage ∧ other passage := by
  obtain ⟨earlier, passage, later, fits, _⟩ := once
  have member : passage ∈ earlier ++ passage :: later :=
    List.mem_append_right _ List.mem_cons_self
  generalize earlier ++ passage :: later = passed at member again
  -- The passage of the first kind changes the state, so it is none of those that do not.
  obtain ⟨earlier, found, later, fits', idle⟩ := again
  rcases List.mem_append.1 member with before | behind
  · exact absurd (idle passage (List.mem_append_left _ before)) (changes passage fits)
  rcases List.mem_cons.1 behind with rfl | after
  · exact ⟨passage, member, fits, fits'⟩
  · exact absurd (idle passage (List.mem_append_right _ after)) (changes passage fits)

end Passage

namespace Plan

open Relation

variable {P : Interface} {α σ τ : Type} {manner : Manner P σ} {drift : σ → σ → Prop}

/-- The plan, carried out from the first state to the last, is done with the result. -/
inductive Walk (manner : Manner P σ) (drift : σ → σ → Prop) :
    Plan P α → σ → List (Passage P σ) → α → σ → Prop
  | done (result : α) (state : σ) : Walk manner drift (.done result) state [] result state
  | drift {plan : Plan P α} {state state' last : σ} {passed : List (Passage P σ)} {result : α}
      (drifted : drift state state') (onward : Walk manner drift plan state' passed result last) :
      Walk manner drift plan state passed result last
  | ask {request : P.Request} {next : P.Reply request → Plan P α} {reply : P.Reply request}
      {state state' last : σ} {passed : List (Passage P σ)} {result : α}
      (replied : manner request state reply state')
      (onward : Walk manner drift (next reply) state' passed result last) :
      Walk manner drift (.ask request next) state (⟨state, ⟨request, reply⟩, state'⟩ :: passed)
        result last

namespace Walk

variable {plan : Plan P α} {first last : σ} {passed : List (Passage P σ)} {result : α}

theorem course (walk : Walk manner drift plan first passed result last) :
    Course plan (passed.map (·.exchange)) (.done result) := by
  induction walk with
  | done result state => exact .still _
  | drift _ _ ih => exact ih
  | ask _ _ ih => exact .ask _ ih

theorem replied (walk : Walk manner drift plan first passed result last) :
    ∀ passage ∈ passed,
      manner passage.exchange.1 passage.before passage.exchange.2 passage.after := by
  induction walk with
  | done result state => exact List.forall_mem_nil _
  | drift _ _ ih => exact ih
  | ask replied _ ih => exact List.forall_mem_cons.2 ⟨replied, ih⟩

theorem drifts {state : σ} (drifted : ReflTransGen drift first state)
    (walk : Walk manner drift plan state passed result last) :
    Walk manner drift plan first passed result last := by
  induction drifted using ReflTransGen.head_induction_on with
  | refl => exact walk
  | head drifted _ ih => exact .drift drifted ih

section Steps

variable {step : σ → σ → Prop} (drifting : ∀ state state', drift state state' → step state state')
variable (replying : ∀ request state reply state', manner request state reply state' →
  ReflTransGen step state state')

include drifting replying

theorem leads (walk : Walk manner drift plan first passed result last) :
    ReflTransGen step first last := by
  induction walk with
  | done result state => exact .refl
  | drift drifted _ ih => exact .head (drifting _ _ drifted) ih
  | ask replied _ ih => exact (replying _ _ _ _ replied).trans ih

/-- From each passage the walk leads on to its last state. -/
theorem leads_on (walk : Walk manner drift plan first passed result last) :
    ∀ passage ∈ passed, ReflTransGen step passage.after last := by
  induction walk with
  | done result state => exact List.forall_mem_nil _
  | drift _ _ ih => exact ih
  | ask _ onward ih => exact List.forall_mem_cons.2 ⟨onward.leads drifting replying, ih⟩

theorem leads_to (walk : Walk manner drift plan first passed result last) :
    ∀ passage ∈ passed, ReflTransGen step first passage.before := by
  induction walk with
  | done result state => exact List.forall_mem_nil _
  | drift drifted _ ih =>
      intro passage member
      exact .head (drifting _ _ drifted) (ih passage member)
  | ask replied _ ih =>
      refine List.forall_mem_cons.2 ⟨.refl, fun passage member => ?_⟩
      exact (replying _ _ _ _ replied).trans (ih passage member)

/-- From each passage the walk leads on to all that come after it. -/
theorem pairwise_leads (walk : Walk manner drift plan first passed result last) :
    passed.Pairwise fun passage later => ReflTransGen step passage.after later.before := by
  induction walk with
  | done result state => exact .nil
  | drift _ _ ih => exact ih
  | ask _ onward ih => exact .cons (onward.leads_to drifting replying) ih

end Steps

/-- A server whose states are seen in part carries a plan out as a walk, if each of its replies is
one of the manner, perhaps after some drift. -/
theorem of_run {serve : Server P τ} {view : τ → σ}
    (obeys : ∀ request state, ∃ between, ReflTransGen drift (view state) between ∧
      manner request between (serve request state).1 (view (serve request state).2))
    (plan : Plan P α) (state : τ) :
    ∃ passed, passed.map (·.exchange) = plan.transcript serve state ∧
      Walk manner drift plan (view state) passed (plan.run serve state).1
        (view (plan.run serve state).2) := by
  induction plan generalizing state with
  | done result => exact ⟨[], rfl, .done result (view state)⟩
  | ask request next ih =>
      obtain ⟨between, drifted, replied⟩ := obeys request state
      obtain ⟨passed, told, onward⟩ := ih (serve request state).1 (serve request state).2
      have walk := drifts drifted (.ask replied onward)
      refine ⟨_, ?_, walk⟩
      rw [List.map_cons, told]
      rfl

end Walk

end Plan

end ClubOffice
