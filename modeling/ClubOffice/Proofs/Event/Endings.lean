import ClubOffice.Proofs.Audit.Bracketing
import ClubOffice.Proofs.Event.Calls

/-!
# How calls on events end

What a creation and a cancellation exchange with the register from their start to their end decides
how they end, and what is reported about them.
-/

namespace ClubOffice.Event

open Audit Plan

variable {slot left : Slot} {exit : Exit Event}
variable {asked : List (Exchange (registry.plus ambient))}

/-- How a creation ends by what it exchanged with the register. -/
inductive Creation : List (Exchange registry) → Exit Event → Prop
  | unplanned (fault : Fault) : Creation [] (.fault fault)
  | unsaved (event : Event) (fault : Fault) : Creation [⟨.save event, .error fault⟩] (.fault fault)
  | saved (event : Event) (opened : event.status = .opened) :
      Creation [⟨.save event, .ok ()⟩] (.value event)

theorem creation_of_course {draft : Draft}
    (course : Course (createSteps draft slot) asked (.done (exit, left))) :
    attempted asked = [] ∧ Creation (told asked) exit := by
  rw [createSteps_apply] at course
  obtain ⟨uuid, later, rfl, onward⟩ := Course.of_ask_done course
  cases planned : plan ⟨uuid⟩ draft with
  | error fault =>
      simp only [planned] at onward
      obtain ⟨rfl, same⟩ := course_done_iff.1 onward
      cases same
      exact ⟨rfl, .unplanned fault⟩
  | ok event =>
      simp only [planned] at onward
      obtain ⟨reply, last, rfl, ending⟩ := Course.of_ask_done onward
      rcases reply with fault | ⟨⟩
      · obtain ⟨rfl, same⟩ := course_done_iff.1 ending
        cases same
        exact ⟨rfl, .unsaved event fault⟩
      · obtain ⟨rfl, same⟩ := course_done_iff.1 ending
        cases same
        exact ⟨rfl, .saved event (status_plan planned)⟩

/-- How a cancellation ends by what it exchanged with the register. -/
inductive Cancellation (key : EventKey) : List (Exchange registry) → Exit Event → Prop
  | unread (fault : Fault) : Cancellation key [⟨.find key, .error fault⟩] (.fault fault)
  | missing : Cancellation key [⟨.find key, .ok none⟩] (.fault (unknown key))
  | closed (event : Event) (closed : event.status ≠ .opened) :
      Cancellation key [⟨.find key, .ok (some event)⟩] (.fault (notCancellable key))
  | unmoved (event : Event) (fault : Fault) (opened : event.status = .opened) :
      Cancellation key
        [⟨.find key, .ok (some event)⟩, ⟨.update key .opened .cancelled, .error fault⟩]
        (.fault fault)
  | refused (event : Event) (opened : event.status = .opened) :
      Cancellation key
        [⟨.find key, .ok (some event)⟩, ⟨.update key .opened .cancelled, .ok false⟩]
        (.fault (notCancellable key))
  | moved (event : Event) (opened : event.status = .opened) :
      Cancellation key
        [⟨.find key, .ok (some event)⟩, ⟨.update key .opened .cancelled, .ok true⟩]
        (.value { event with status := .cancelled })

theorem cancellation_of_course {key : EventKey}
    (course : Course (cancelSteps key slot) asked (.done (exit, left))) :
    attempted asked = [] ∧ Cancellation key (told asked) exit := by
  rw [cancelSteps_apply] at course
  obtain ⟨reply, later, rfl, onward⟩ := Course.of_ask_done course
  rcases reply with fault | _ | event
  · obtain ⟨rfl, same⟩ := course_done_iff.1 onward
    cases same
    exact ⟨rfl, .unread fault⟩
  · obtain ⟨rfl, same⟩ := course_done_iff.1 onward
    cases same
    exact ⟨rfl, .missing⟩
  by_cases opened : event.status = .opened
  · simp only [if_pos opened] at onward
    obtain ⟨answer, last, rfl, ending⟩ := Course.of_ask_done onward
    rcases answer with fault | _ | _
    · obtain ⟨rfl, same⟩ := course_done_iff.1 ending
      cases same
      exact ⟨rfl, .unmoved event fault opened⟩
    · obtain ⟨rfl, same⟩ := course_done_iff.1 ending
      cases same
      exact ⟨rfl, .refused event opened⟩
    · obtain ⟨rfl, same⟩ := course_done_iff.1 ending
      cases same
      exact ⟨rfl, .moved event opened⟩
  · simp only [if_neg opened] at onward
    obtain ⟨rfl, same⟩ := course_done_iff.1 onward
    cases same
    exact ⟨rfl, .closed event opened⟩

/-- The records of a call, one for its start and then perhaps one for how it ended. -/
def Reported (start success : String) (failure : Option String) (exit : Exit Event)
    (records : List Record) : Prop :=
  ∃ trace began ended lines, Closes success failure .info exit lines ∧
    records = ⟨trace, source, start, .info, began⟩ ::
      lines.map fun line => ⟨trace, source, line.1, line.2, ended⟩

/-- An audited call exchanges with the register what its steps do, and reports how they end. -/
theorem course_of_audited {operation : Operation} {steps : Act registry Event} {after : Slot}
    (course : Course (audited source operation steps slot) asked (.done (exit, after))) :
    ∃ inner within left, Course (steps inner) within (.done (exit, left)) ∧
      told asked = told within ∧ ∃ trace began ended lines, operation.Closes exit lines ∧
        attempted asked =
          ⟨trace, source, operation.start.text, operation.severity, began⟩ ::
            (attempted within ++ lines.map fun line => ⟨trace, source, line.1, line.2, ended⟩) := by
  obtain ⟨trace, inner, opening, left, within, bracketed, lends, whole, brackets, rfl⟩ :=
    course_audited course
  obtain ⟨began, ended, lines, closes, records⟩ := brackets.attempted
  refine ⟨inner, within, left, whole, ?_, trace, began, ended, lines, closes, ?_⟩
  · rw [told, List.filterMap_append, lends.left?, brackets.left?]
    rfl
  · rw [attempted_append, lends.attempted, records]
    rfl

end ClubOffice.Event
