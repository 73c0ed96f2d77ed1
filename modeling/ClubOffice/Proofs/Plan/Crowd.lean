import ClubOffice.Proofs.Plan.Course
import Mathlib.Data.List.Basic

/-!
# Reachable crowds

However the exchanges of several calls follow one another, each call takes a course of its own plan.
What is exchanged in a step is one more exchange of the crowd as a whole.
-/

namespace ClubOffice.Crowd

open Relation

variable {S P : Interface} {σ : Type} {service : Service S P} {manner : Manner P σ}
variable {drift : σ → σ → Prop} {calls : List S.Request} {initial : σ}
variable {crowd : Crowd S P σ}

/-- The crowds that can come about when the given calls are made in the given state. -/
def Reachable (service : Service S P) (manner : Manner P σ) (drift : σ → σ → Prop)
    (calls : List S.Request) (initial : σ) (crowd : Crowd S P σ) : Prop :=
  ReflTransGen (Step manner drift) (start service calls initial) crowd

theorem exchanges_start : (start service calls initial).exchanges = [] := by
  simp [start, exchanges, Strand.start, List.flatMap_map]

theorem Reachable.map_call (reachable : Reachable service manner drift calls initial crowd) :
    crowd.strands.map (·.call) = calls := by
  induction reachable with
  | refl => simp [start, Strand.start, Function.comp_def]
  | tail _ step ih =>
      cases step with
      | exchange => simpa using ih
      | drift => exact ih

theorem Reachable.course (reachable : Reachable service manner drift calls initial crowd)
    {strand : Strand S P} (member : strand ∈ crowd.strands) :
    (service strand.call).Course strand.asked strand.rest := by
  induction reachable generalizing strand with
  | refl =>
      obtain ⟨call, _, rfl⟩ := List.mem_map.1 member
      exact .still _
  | tail _ step ih =>
      cases step with
      | exchange before after call asked request next state state' reply replied =>
          rcases List.mem_append.1 member with earlier | later
          · exact ih (by simp [earlier])
          rcases List.mem_cons.1 later with rfl | later
          · have course := @ih ⟨call, asked, .ask request next⟩ (by simp)
            exact course.snoc reply
          · exact ih (by simp [later])
      | drift => exact ih member

/-- An exchange of one call is one more exchange of the crowd. -/
theorem exchanges_perm (before after : List (Strand S P)) (call : S.Request)
    (asked : List (Exchange P)) (exchange : Exchange P) (rest rest' : Plan P (S.Reply call))
    (state state' : σ) :
    (exchanges ⟨before ++ ⟨call, asked ++ [exchange], rest'⟩ :: after, state'⟩).Perm
      (exchange :: exchanges ⟨before ++ ⟨call, asked, rest⟩ :: after, state⟩) := by
  have moved : (asked ++ [exchange] ++ after.flatMap (·.asked)).Perm
      (exchange :: (asked ++ after.flatMap (·.asked))) := by
    simp
  simpa [exchanges] using (moved.append_left _).trans List.perm_middle

theorem mem_exchanges {exchange : Exchange P} :
    exchange ∈ crowd.exchanges ↔ ∃ strand ∈ crowd.strands, exchange ∈ strand.asked :=
  List.mem_flatMap

theorem Reachable.forall_exchange {property : Exchange P → Prop}
    (reachable : Reachable service manner drift calls initial crowd)
    (holds : ∀ call ∈ calls, ∀ asked rest, (service call).Course asked rest →
      ∀ exchange ∈ asked, property exchange) :
    ∀ exchange ∈ crowd.exchanges, property exchange := by
  intro exchange member
  obtain ⟨strand, present, asked⟩ := mem_exchanges.1 member
  have made : strand.call ∈ calls := reachable.map_call ▸ List.mem_map_of_mem present
  exact holds _ made _ _ (reachable.course present) _ asked

/-- A turn against a server that keeps to the manner is a step, or changes nothing. -/
theorem turn_steps {serve : Server P σ}
    (obeys : ∀ request state, manner request state (serve request state).1 (serve request state).2)
    (crowd : Crowd S P σ) (place : Nat) :
    ReflTransGen (Step manner drift) crowd (crowd.turn serve place) := by
  obtain ⟨strands, state⟩ := crowd
  unfold turn
  split
  · exact .refl
  · rename_i strand found
    obtain ⟨inside, rfl⟩ := List.getElem?_eq_some_iff.1 found
    have split : strands = strands.take place ++ strands[place] :: strands.drop (place + 1) := by
      simp
    have replaced (strand : Strand S P) :
        strands.set place strand = strands.take place ++ strand :: strands.drop (place + 1) :=
      List.set_eq_take_append_cons_drop.trans (if_pos inside)
    rcases current : strands[place] with ⟨call, asked, _ | ⟨request, next⟩⟩
    · rw [current] at split
      simp only [Strand.turn, replaced, ← split]
      exact .refl
    · rw [current] at split
      simp only [Strand.turn, replaced]
      have step := @Step.exchange S P σ manner drift (strands.take place)
        (strands.drop (place + 1)) call asked request next state _ _ (obeys request state)
      rw [← split] at step
      exact .single step

theorem turns_steps {serve : Server P σ}
    (obeys : ∀ request state, manner request state (serve request state).1 (serve request state).2)
    (crowd : Crowd S P σ) (schedule : List Nat) :
    ReflTransGen (Step manner drift) crowd (crowd.turns serve schedule) := by
  induction schedule generalizing crowd with
  | nil => exact .refl
  | cons place schedule ih => exact (turn_steps obeys crowd place).trans (ih _)

end ClubOffice.Crowd
