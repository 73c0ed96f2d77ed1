import ClubOffice.Audit.Envelope
import ClubOffice.Proofs.Plan.Course

/-!
# Courses of audited acts

An envelope only adds requests to the surroundings. What an audited act exchanges over its own
interface is what the act inside exchanges, in the same order, and it ends the way that one ends.
-/

namespace ClubOffice.Audit

open Plan

variable {P : Interface} {α : Type}

/-- Whether a plan takes only courses of the act, apart from what it asks of the surroundings. -/
def Encloses (act : Act P α) (plan : Plan (P.plus ambient) (Exit α × Slot)) : Prop :=
  ∀ asked rest, Course plan asked rest →
    ∃ slot inner left, Course (act slot) inner left ∧
      inner.filterMap Exchange.left? = asked.filterMap Exchange.left? ∧
      ∀ exit outer, rest = .done (exit, outer) → ∃ final, left = .done (exit, final)

theorem encloses_self (act : Act P α) (slot : Slot) : Encloses act (act slot) :=
  fun asked rest course => ⟨slot, asked, rest, course, rfl, fun _ outer whole => ⟨outer, whole⟩⟩

theorem Encloses.ask {act : Act P α} {request : ambient.Request}
    {next : ambient.Reply request → Plan (P.plus ambient) (Exit α × Slot)}
    (encloses : ∀ reply, Encloses act (next reply)) :
    Encloses act (.ask (.inr request) next) := by
  intro asked rest course
  rcases course_ask_iff.1 course with ⟨rfl, rfl⟩ | ⟨reply, later, rfl, onward⟩
  · exact ⟨.outside, [], act .outside, .still _, rfl, fun _ _ whole => by cases whole⟩
  · obtain ⟨slot, inner, left, part, same, whole⟩ := encloses reply later rest onward
    refine ⟨slot, inner, left, part, ?_, whole⟩
    rw [same, List.filterMap_cons_none (Exchange.left?_inr request reply)]

/-- What comes after an act asks nothing of its interface and ends the way the act ended. -/
def EndsAlike (after : Exit α × Slot → Plan (P.plus ambient) (Exit α × Slot)) : Prop :=
  ∀ exit slot asked rest, Course (after (exit, slot)) asked rest →
    asked.filterMap Exchange.left? = [] ∧
      ∀ exit' slot', rest = .done (exit', slot') → exit' = exit

theorem Encloses.bind {act : Act P α} {plan : Plan (P.plus ambient) (Exit α × Slot)}
    {after : Exit α × Slot → Plan (P.plus ambient) (Exit α × Slot)}
    (encloses : Encloses act plan) (alike : EndsAlike after) :
    Encloses act (plan.bind after) := by
  intro asked rest course
  rcases course.of_bind with
    ⟨part, first, rfl⟩ | ⟨first, second, ⟨exit, found⟩, rfl, first', second'⟩
  · obtain ⟨slot, inner, left, course', same, whole⟩ := encloses asked part first
    refine ⟨slot, inner, left, course', same, ?_⟩
    intro exit outer ended
    cases part with
    | ask request next => cases ended
    | done result =>
        obtain ⟨exit', found⟩ := result
        obtain ⟨final, rfl⟩ := whole exit' found rfl
        have exits := (alike exit' found [] _ (.still _)).2 exit outer ended
        exact ⟨final, by rw [exits]⟩
  · obtain ⟨slot, inner, left, course', same, whole⟩ := encloses first _ first'
    obtain ⟨nothing, exits⟩ := alike exit found second rest second'
    obtain ⟨final, rfl⟩ := whole exit found rfl
    refine ⟨slot, inner, _, course', ?_, ?_⟩
    · rw [List.filterMap_append, nothing, List.append_nil, same]
    · intro exit' outer ended
      exact ⟨final, by rw [exits exit' outer ended]⟩

theorem endsAlike_done (change : Slot → Slot) :
    EndsAlike fun result : Exit α × Slot =>
      (.done (result.1, change result.2) : Plan (P.plus ambient) (Exit α × Slot)) := by
  intro exit slot asked rest course
  obtain ⟨rfl, rfl⟩ := course_done_iff.1 course
  exact ⟨rfl, fun _ _ same => by cases same; rfl⟩

theorem encloses_report {act : Act P α} {after : Unit → Act P α} {slot : Slot}
    (encloses : Encloses act (after () slot)) (trace : TraceKey) (source : Source)
    (message : String) (severity : Severity) :
    Encloses act (((report trace source message severity).bind after) slot) :=
  .ask fun _ => .ask fun _ => encloses

theorem encloses_reportEnd (act : Act P α) (trace : TraceKey) (source : Source)
    (operation : Operation) (slot : Slot) :
    Encloses act (reportEnd trace source operation act slot) := by
  refine (encloses_self act slot).bind ?_
  intro exit found asked rest course
  cases closing : operation.closing exit with
  | none =>
      simp only [closing] at course
      obtain ⟨rfl, rfl⟩ := course_done_iff.1 course
      exact ⟨rfl, fun _ _ same => by cases same; rfl⟩
  | some line =>
      simp only [closing] at course
      obtain ⟨found', inner, left, course', same, whole⟩ :=
        encloses_report (encloses_self (Act.finish exit) found) trace source line.1 line.2
          asked rest course
      obtain ⟨rfl, rfl⟩ := course_done_iff.1 course'
      refine ⟨same.symm, fun exit' slot' ended => ?_⟩
      obtain ⟨final, same⟩ := whole exit' slot' ended
      cases same
      rfl

theorem encloses_reported (act : Act P α) (trace : TraceKey) (source : Source)
    (operation : Operation) (slot : Slot) :
    Encloses act (reported trace source operation act slot) :=
  encloses_report (encloses_reportEnd act trace source operation slot) trace source _ _

theorem encloses_reportedInScope (act : Act P α) (source : Source) (operation : Operation)
    (slot : Slot) : Encloses act (reportedInScope source operation act slot) := by
  unfold reportedInScope
  split
  · exact encloses_reported act _ source operation slot
  · exact .ask fun uuid =>
      (encloses_reported act ⟨uuid⟩ source operation _).bind (endsAlike_done Slot.clear)

/-- An audited act encloses the act inside. -/
theorem encloses_audited (act : Act P α) (source : Source) (operation : Operation)
    (slot : Slot) : Encloses act (audited source operation act slot) := by
  unfold audited
  split
  · exact encloses_reportedInScope act source operation slot
  · exact (encloses_reportedInScope act source operation _).bind (endsAlike_done fun _ => slot)

end ClubOffice.Audit
