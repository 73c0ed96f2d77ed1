import ClubOffice.Audit.Envelope
import ClubOffice.Proofs.Plan.Ends

/-!
# Reports around an act

The reports of an audited act stand like brackets around what the act inside does: one for the start
in front, and behind at most one for the end, which the way that the act ended decides. Both are
under one trace, whatever the act did to the slot in between.
-/

namespace ClubOffice.Audit

open Plan

variable {P : Interface} {α β : Type}

def attempt? : Exchange (P.plus ambient) → Option Record
  | ⟨.inr (.write record), _⟩ => some record
  | _ => none

/-- The records that were to be written, whether or not the trail took them. -/
abbrev attempted (asked : List (Exchange (P.plus ambient))) : List Record :=
  asked.filterMap attempt?

theorem attempted_append (first second : List (Exchange (P.plus ambient))) :
    attempted (first ++ second) = attempted first ++ attempted second :=
  List.filterMap_append

/-- The exchanges of a report: the time is asked for, and then the record is to be written. -/
def announcement (record : Record) (taken : Except Fault Unit) :
    List (Exchange (P.plus ambient)) :=
  [⟨.inr .now, record.time⟩, ⟨.inr (.write record), taken⟩]

@[simp]
theorem attempted_announcement (record : Record) (taken : Except Fault Unit) :
    attempted (announcement record taken : List (Exchange (P.plus ambient))) = [record] :=
  rfl

@[simp]
theorem left?_announcement (record : Record) (taken : Except Fault Unit) :
    (announcement record taken : List (Exchange (P.plus ambient))).filterMap Exchange.left? = [] :=
  rfl

/-- What is reported about an end, given a line for success, perhaps one for failure, and how grave
these are: a refusal is told in its own words, and a crash is not told at all. -/
inductive Closes (success : String) (failure : Option String) (severity : Severity) :
    Exit α → List (String × Severity) → Prop
  | value (result : α) : Closes success failure severity (.value result) [(success, severity)]
  | refused (refusal : Refusal) :
      Closes success failure severity (.fault (.refused refusal))
        [(refusal.reason, refusal.severity)]
  | failed (cause : Fault) (other : ∀ refusal, cause ≠ .refused refusal) :
      Closes success failure severity (.fault cause)
        (failure.toList.map fun line => (line, severity))
  | crash (message : String) : Closes success failure severity (.crash message) []

def Operation.Closes (operation : Operation) (exit : Exit α)
    (lines : List (String × Severity)) : Prop :=
  Audit.Closes operation.success.text (operation.failure.map (·.text)) operation.severity exit lines

theorem Operation.closes_closing (operation : Operation) (exit : Exit α) :
    operation.Closes exit (operation.closing exit).toList := by
  cases exit with
  | value result => exact .value result
  | crash message => exact .crash message
  | fault cause =>
      by_cases refused : ∃ refusal, cause = .refused refusal
      · obtain ⟨refusal, rfl⟩ := refused
        exact .refused refusal
      · have other : ∀ refusal, cause ≠ .refused refusal := by
          intro refusal same
          exact refused ⟨refusal, same⟩
        have told : operation.closing (.fault cause : Exit α) =
            operation.failure.map fun line => (line.text, operation.severity) := by
          cases cause with
          | refused refusal => exact absurd rfl (other refusal)
          | _ => rfl
        have closes : operation.Closes (.fault cause : Exit α)
            ((operation.failure.map (·.text)).toList.map fun line => (line, operation.severity)) :=
          Closes.failed cause other
        rw [told]
        cases declared : operation.failure with
        | none => simpa [Operation.Closes, declared] using closes
        | some line => simpa [Operation.Closes, declared] using closes

/-- How the exchanges of an act that is reported stand around those of the act itself. -/
inductive Brackets (trace : TraceKey) (source : Source) (operation : Operation) (exit : Exit α)
    (within : List (Exchange (P.plus ambient))) : List (Exchange (P.plus ambient)) → Prop
  | intro (began ended : Time.Instant) (taken noted : Except Fault Unit)
      {lines : List (String × Severity)} (closes : operation.Closes exit lines) :
      Brackets trace source operation exit within <|
        announcement ⟨trace, source, operation.start.text, operation.severity, began⟩ taken ++
          (within ++ lines.flatMap fun line =>
            announcement ⟨trace, source, line.1, line.2, ended⟩ noted)

section Courses

variable {trace : TraceKey} {source : Source} {operation : Operation} {act : Act P α}
variable {slot left after : Slot} {exit : Exit α} {within asked : List (Exchange (P.plus ambient))}

theorem course_report {message : String} {severity : Severity} {later : Unit → Act P β}
    {final : Exit β × Slot}
    (course : Course ((report trace source message severity).bind later slot) asked (.done final)) :
    ∃ time taken onward,
      asked = announcement ⟨trace, source, message, severity, time⟩ taken ++ onward ∧
        Course (later () slot) onward (.done final) := by
  obtain ⟨time, rest, rfl, timed⟩ := Course.of_ask_done course
  obtain ⟨taken, onward, rfl, noted⟩ := Course.of_ask_done timed
  exact ⟨time, taken, onward, rfl, noted⟩

theorem course_reportEnd
    (course : Course (reportEnd trace source operation act slot) asked (.done (exit, left))) :
    ∃ within ended noted lines, Course (act slot) within (.done (exit, left)) ∧
      operation.Closes exit lines ∧
      asked = within ++ lines.flatMap fun line =>
        announcement ⟨trace, source, line.1, line.2, ended⟩ noted := by
  obtain ⟨within, onward, ⟨found, back⟩, rfl, whole, last⟩ := course.of_bind_done
  have closes := operation.closes_closing found
  cases closing : operation.closing found with
  | none =>
      simp only [closing] at last closes
      obtain ⟨rfl, same⟩ := course_done_iff.1 last
      cases same
      exact ⟨within, .epoch, .ok (), [], whole, closes, rfl⟩
  | some line =>
      simp only [closing] at last closes
      obtain ⟨ended, noted, rest, rfl, finish⟩ := course_report last
      obtain ⟨rfl, same⟩ := course_done_iff.1 finish
      cases same
      exact ⟨within, ended, noted, [line], whole, closes, rfl⟩

theorem course_reported
    (course : Course (reported trace source operation act slot) asked (.done (exit, left))) :
    ∃ within, Course (act slot) within (.done (exit, left)) ∧
      Brackets trace source operation exit within asked := by
  obtain ⟨began, taken, onward, rfl, started⟩ := course_report course
  obtain ⟨within, ended, noted, lines, whole, closes, rfl⟩ := course_reportEnd started
  exact ⟨within, whole, .intro began ended taken noted closes⟩

theorem Brackets.attempted (brackets : Brackets trace source operation exit within asked) :
    ∃ began ended lines, operation.Closes exit lines ∧
      attempted asked = ⟨trace, source, operation.start.text, operation.severity, began⟩ ::
        (attempted within ++ lines.map fun line => ⟨trace, source, line.1, line.2, ended⟩) := by
  obtain ⟨began, ended, taken, noted, closes⟩ := brackets
  refine ⟨began, ended, _, closes, ?_⟩
  simp [List.filterMap_flatMap, ← List.map_eq_flatMap]

theorem Brackets.left? (brackets : Brackets trace source operation exit within asked) :
    asked.filterMap Exchange.left? = within.filterMap Exchange.left? := by
  obtain ⟨began, ended, taken, noted, closes⟩ := brackets
  simp [List.filterMap_flatMap]

end Courses

/-- Under which trace an audited act performs the act inside, with which slot and after which
exchanges, and how it leaves the slot that it found once the act inside has left its own. -/
inductive Lends : (found : Slot) → (trace : TraceKey) → (inner : Slot) →
    (opening : List (Exchange (P.plus ambient))) → (left after : Slot) → Prop
  | joins (trace : TraceKey) (left : Slot) :
      Lends (.inside (some trace)) trace (.inside (some trace)) [] left left
  | begins (uuid : Uuid) (left : Slot) :
      Lends (.inside none) ⟨uuid⟩ (.inside (some ⟨uuid⟩)) [⟨.inr .freshId, uuid⟩] left left.clear
  | opens (uuid : Uuid) (left : Slot) :
      Lends .outside ⟨uuid⟩ (.inside (some ⟨uuid⟩)) [⟨.inr .freshId, uuid⟩] left .outside

namespace Lends

variable {trace : TraceKey} {found inner left after : Slot}
variable {opening : List (Exchange (P.plus ambient))}

theorem attempted (lends : Lends found trace inner opening left after) :
    attempted opening = [] := by
  cases lends <;> rfl

theorem left? (lends : Lends found trace inner opening left after) :
    opening.filterMap Exchange.left? = [] := by
  cases lends <;> rfl

end Lends

section Courses

variable {source : Source} {operation : Operation} {act : Act P α} {slot after : Slot}
variable {exit : Exit α} {asked : List (Exchange (P.plus ambient))}

theorem course_reportedInScope {current : Option TraceKey}
    (course : Course (reportedInScope source operation act (.inside current)) asked
      (.done (exit, after))) :
    ∃ trace inner opening left bracketed,
      Lends (.inside current) trace inner opening left after ∧
        Course (reported trace source operation act inner) bracketed (.done (exit, left)) ∧
        asked = opening ++ bracketed := by
  cases current with
  | some trace => exact ⟨trace, _, [], after, asked, .joins trace after, course, rfl⟩
  | none =>
      obtain ⟨uuid, rest, rfl, entered⟩ := Course.of_ask_done course
      obtain ⟨bracketed, last, ⟨found, left⟩, rfl, whole, clearing⟩ := entered.of_bind_done
      obtain ⟨rfl, same⟩ := course_done_iff.1 clearing
      cases same
      refine ⟨⟨uuid⟩, _, _, left, bracketed, .begins uuid left, whole, ?_⟩
      rw [List.append_nil]
      rfl

/-- An audited act performs the act inside once, under a trace that it joins or begins, with the
reports around it, and ends the way that one ends. -/
theorem course_audited
    (course : Course (audited source operation act slot) asked (.done (exit, after))) :
    ∃ trace inner opening left within bracketed, Lends slot trace inner opening left after ∧
      Course (act inner) within (.done (exit, left)) ∧
      Brackets trace source operation exit within bracketed ∧ asked = opening ++ bracketed := by
  cases slot with
  | inside current =>
      obtain ⟨trace, inner, opening, left, bracketed, lends, told, rfl⟩ :=
        course_reportedInScope course
      obtain ⟨within, whole, brackets⟩ := course_reported told
      exact ⟨trace, inner, opening, left, within, bracketed, lends, whole, brackets, rfl⟩
  | outside =>
      -- The scope that is opened here begins empty, and its slot is given up at the end.
      obtain ⟨part, last, ⟨found, own⟩, rfl, first, leaving⟩ := course.of_bind_done
      obtain ⟨rfl, same⟩ := course_done_iff.1 leaving
      cases same
      obtain ⟨trace, inner, opening, left, bracketed, lends, told, rfl⟩ :=
        course_reportedInScope first
      obtain ⟨within, whole, brackets⟩ := course_reported told
      cases lends with
      | begins uuid =>
          refine ⟨⟨uuid⟩, _, _, left, within, bracketed, .opens uuid left, whole, brackets, ?_⟩
          exact List.append_nil _

end Courses

end ClubOffice.Audit
