import ClubOffice.Plan.Interleaving
import Mathlib.Logic.Relation

/-!
# Courses of plans

A plan can take many courses, since it may be replied with anything. A course is told by the
exchanges made so far and by what is then left of the plan. Whatever holds of all courses of a plan
holds of it next to any other plans, over any state, and also before it is done.
-/

namespace ClubOffice

namespace Plan

variable {P : Interface} {α β σ : Type}

theorem ask_congr {request : P.Request} {next next' : P.Reply request → Plan P α}
    (same : ∀ reply, next reply = next' reply) : Plan.ask request next = .ask request next' :=
  congrArg (Plan.ask request) (funext same)

/-- The exchanges that can be made until the last of the given plans is left of the first. -/
inductive Course : Plan P α → List (Exchange P) → Plan P α → Prop
  | still (plan : Plan P α) : Course plan [] plan
  | ask {request : P.Request} {next : P.Reply request → Plan P α} (reply : P.Reply request)
      {asked : List (Exchange P)} {rest : Plan P α} (later : Course (next reply) asked rest) :
      Course (.ask request next) (⟨request, reply⟩ :: asked) rest

theorem course_done_iff {result : α} {asked : List (Exchange P)} {rest : Plan P α} :
    Course (.done result) asked rest ↔ asked = [] ∧ rest = .done result := by
  constructor
  · intro course
    cases course
    exact ⟨rfl, rfl⟩
  · rintro ⟨rfl, rfl⟩
    exact .still _

theorem course_ask_iff {request : P.Request} {next : P.Reply request → Plan P α}
    {asked : List (Exchange P)} {rest : Plan P α} :
    Course (.ask request next) asked rest ↔
      (asked = [] ∧ rest = .ask request next) ∨
        ∃ reply later, asked = ⟨request, reply⟩ :: later ∧ Course (next reply) later rest := by
  constructor
  · intro course
    cases course with
    | still => exact .inl ⟨rfl, rfl⟩
    | ask reply later => exact .inr ⟨reply, _, rfl, later⟩
  · rintro (⟨rfl, rfl⟩ | ⟨reply, later, rfl, course⟩)
    · exact .still _
    · exact .ask reply course

/-- The next request of what is left prolongs the course, whatever its reply. -/
theorem Course.snoc {plan : Plan P α} {asked : List (Exchange P)} {request : P.Request}
    {next : P.Reply request → Plan P α} (course : Course plan asked (.ask request next))
    (reply : P.Reply request) : Course plan (asked ++ [⟨request, reply⟩]) (next reply) := by
  -- The induction is on the course, whose end has to be a variable.
  generalize left : Plan.ask request next = rest at course
  induction course with
  | still =>
      subst left
      exact .ask reply (.still _)
  | ask earlier _ ih => exact .ask earlier (ih left)

theorem Course.append {plan rest last : Plan P α} {asked later : List (Exchange P)}
    (course : Course plan asked rest) (onward : Course rest later last) :
    Course plan (asked ++ later) last := by
  induction course with
  | still => exact onward
  | ask reply _ ih => exact .ask reply (ih onward)

/-- The exchanges of a course decide what is left of the plan. -/
theorem Course.append_iff {plan rest last : Plan P α} {asked later : List (Exchange P)}
    (course : Course plan asked rest) :
    Course plan (asked ++ later) last ↔ Course rest later last := by
  refine ⟨fun whole => ?_, course.append⟩
  induction course with
  | still => exact whole
  | ask reply _ ih =>
      rcases course_ask_iff.1 whole with ⟨none, _⟩ | ⟨reply', later', same, onward⟩
      · cases none
      · cases same
        exact ih onward

theorem Course.bind {plan rest : Plan P α} {asked : List (Exchange P)}
    (course : Course plan asked rest) (after : α → Plan P β) :
    Course (plan.bind after) asked (rest.bind after) := by
  induction course with
  | still => exact .still _
  | ask reply _ ih => exact .ask reply ih

/-- Two plans one after the other take a course in the first, or a whole course of the first and
then one in the second. -/
theorem Course.of_bind {plan : Plan P α} {after : α → Plan P β} {asked : List (Exchange P)}
    {rest : Plan P β} (course : Course (plan.bind after) asked rest) :
    (∃ left, Course plan asked left ∧ rest = left.bind after) ∨
      ∃ first second result, asked = first ++ second ∧ Course plan first (.done result) ∧
        Course (after result) second rest := by
  induction plan generalizing asked with
  | done result => exact .inr ⟨[], asked, result, rfl, .still _, course⟩
  | ask request next ih =>
      rcases course_ask_iff.1 course with ⟨rfl, rfl⟩ | ⟨reply, later, rfl, onward⟩
      · exact .inl ⟨.ask request next, .still _, rfl⟩
      rcases ih reply onward with ⟨left, part, rfl⟩ | ⟨first, second, result, rfl, whole, part⟩
      · exact .inl ⟨left, .ask reply part, rfl⟩
      · exact .inr ⟨⟨request, reply⟩ :: first, second, result, rfl, .ask reply whole, part⟩

/-- An exchange that comes about in two plans one after the other comes about in the first, or when
that one is done. -/
theorem Course.of_bind_append {plan : Plan P α} {after : α → Plan P β}
    {first later : List (Exchange P)} {exchange : Exchange P} {rest : Plan P β}
    (course : Course (plan.bind after) (first ++ exchange :: later) rest) :
    (∃ later' left, Course plan (first ++ exchange :: later') left) ∨
      ∃ begun between result, first = begun ++ between ∧ Course plan begun (.done result) ∧
        Course (after result) (between ++ exchange :: later) rest := by
  rcases course.of_bind with ⟨left, part, _⟩ | ⟨begun, second, result, same, whole, onward⟩
  · exact .inl ⟨later, left, part⟩
  rcases List.append_eq_append_iff.1 same with ⟨rest', rfl, split⟩ | ⟨between, rfl, rfl⟩
  · cases rest' with
    | nil =>
        rw [List.append_nil] at whole
        exact .inr ⟨first, [], result, (List.append_nil first).symm, whole, split ▸ onward⟩
    | cons found rest' =>
        cases split
        exact .inl ⟨rest', _, whole⟩
  · exact .inr ⟨begun, between, result, rfl, whole, onward⟩

/-- A whole course of a plan that asks begins with that request. -/
theorem Course.of_ask_done {request : P.Request} {next : P.Reply request → Plan P α}
    {asked : List (Exchange P)} {result : α}
    (course : Course (.ask request next) asked (.done result)) :
    ∃ reply later, asked = ⟨request, reply⟩ :: later ∧
      Course (next reply) later (.done result) := by
  rcases course_ask_iff.1 course with ⟨_, same⟩ | onward
  · cases same
  · exact onward

/-- A whole course of two plans one after the other is a whole course of each. -/
theorem Course.of_bind_done {plan : Plan P α} {after : α → Plan P β} {asked : List (Exchange P)}
    {final : β} (course : Course (plan.bind after) asked (.done final)) :
    ∃ first second result, asked = first ++ second ∧ Course plan first (.done result) ∧
      Course (after result) second (.done final) := by
  induction plan generalizing asked with
  | done result => exact ⟨[], asked, result, rfl, .still _, course⟩
  | ask request next ih =>
      obtain ⟨reply, later, rfl, onward⟩ := Course.of_ask_done course
      obtain ⟨first, second, result, rfl, whole, last⟩ := ih reply onward
      exact ⟨⟨request, reply⟩ :: first, second, result, rfl, .ask reply whole, last⟩

/-- A plan that is carried out against a server takes a whole course. -/
theorem course_transcript (serve : Server P σ) (plan : Plan P α) (state : σ) :
    Course plan (plan.transcript serve state) (.done (plan.run serve state).1) := by
  induction plan generalizing state with
  | done result => exact .still _
  | ask request next ih => exact .ask _ (ih _ _)

end Plan

def Exchange.left? {P Q : Interface} : Exchange (P.plus Q) → Option (Exchange P)
  | ⟨.inl request, reply⟩ => some ⟨request, reply⟩
  | ⟨.inr _, _⟩ => none

@[simp]
theorem Exchange.left?_inl {P Q : Interface} (request : P.Request) (reply : P.Reply request) :
    Exchange.left? (⟨.inl request, reply⟩ : Exchange (P.plus Q)) = some ⟨request, reply⟩ :=
  rfl

@[simp]
theorem Exchange.left?_inr {P Q : Interface} (request : Q.Request) (reply : Q.Reply request) :
    Exchange.left? (⟨.inr request, reply⟩ : Exchange (P.plus Q)) = none :=
  rfl

end ClubOffice
