import ClubOffice.Audit.Rehearsal
import ClubOffice.Proofs.Audit.ScopeKeeping

/-!
# The law of the envelope

What is to be seen of an audited act: it ends the way the act inside ends, its reports stand around
those of the act inside and bear one trace, and where there was no current trace there is none
afterwards. This is so whatever the act inside does to the slot, and for every caller's slot.
-/

namespace ClubOffice.Audit

open Plan

variable {P : Interface} {α : Type}

/-- The line for failure that an adjustment gives. -/
def Adjustment.failure? : Adjustment → Option String
  | .failure line => some line
  | .severity _ => none

theorem failure_foldl (changes : List Adjustment) (operation : Operation) :
    (changes.foldl Operation.adjust operation).failure =
      (changes.filterMap Adjustment.failure?).getLast?.elim operation.failure
        fun line => (Label.make line).toOption := by
  induction changes generalizing operation with
  | nil => rfl
  | cons change changes ih =>
      rw [List.foldl_cons, ih]
      cases change with
      | severity severity => rfl
      | failure line =>
          simp only [List.filterMap_cons, Adjustment.failure?, List.getLast?_cons]
          cases (changes.filterMap Adjustment.failure?).getLast? <;> rfl

theorem failure_make {start success : String} {operation : Operation}
    (made : Operation.make start success = .ok operation) : operation.failure = none := by
  unfold Operation.make at made
  cases first : Label.make start with
  | error fault =>
      rw [first] at made
      cases made
  | ok start =>
      cases second : Label.make success with
      | error fault =>
          rw [first, second] at made
          cases made
      | ok success =>
          rw [first, second] at made
          cases made
          rfl

theorem toOption_eq_some_iff {ε β : Type} {result : Except ε β} {value : β} :
    result.toOption = some value ↔ result = .ok value := by
  cases result <;> simp [Except.toOption]

/-- An operation has a line for failure if the last one given to it is not blank. -/
theorem failure_describe {start success : String} {changes : List Adjustment}
    {operation : Operation} (described : Operation.describe start success changes = .ok operation)
    (line : Label) :
    operation.failure = some line ↔
      (changes.filterMap Adjustment.failure?).getLast? = some line.text ∧
        Text.isBlank line.text.toList = false := by
  unfold Operation.describe at described
  cases made : Operation.make start success with
  | error fault =>
      rw [made] at described
      cases described
  | ok plain =>
      rw [made] at described
      cases described
      rw [failure_foldl, failure_make made]
      cases given : (changes.filterMap Adjustment.failure?).getLast? with
      | none => simp
      | some last =>
          constructor
          · intro declared
            have made := toOption_eq_some_iff.1 declared
            obtain ⟨said, rfl⟩ := (Label.make_eq_ok_iff last line).1 made
            exact ⟨rfl, said⟩
          · rintro ⟨same, said⟩
            cases same
            exact toOption_eq_some_iff.2 ((Label.make_eq_ok_iff line.text line).2 ⟨said, rfl⟩)

/-- What is to be seen of an audited act that has ended. The act inside is performed once, and ends
in the same way; what was to be written is a report of the start, then what the act inside wrote,
and then the report that the end calls for. -/
def Enveloped (source : Source) (operation : Operation) (act : Act P α) (slot : Slot)
    (asked : List (Exchange (P.plus ambient))) (exit : Exit α) (after : Slot) : Prop :=
  ∃ trace inner opening left within began ended lines,
    Lends slot trace inner opening left after ∧ opening <+: asked ∧
      Course (act inner) within (.done (exit, left)) ∧ operation.Closes exit lines ∧
      attempted asked = ⟨trace, source, operation.start.text, operation.severity, began⟩ ::
        (attempted within ++ lines.map fun line => ⟨trace, source, line.1, line.2, ended⟩) ∧
      asked.filterMap Exchange.left? = within.filterMap Exchange.left?

theorem Lends.current_eq_none {slot inner left after : Slot} {trace : TraceKey}
    {opening : List (Exchange (P.plus ambient))}
    (lends : Lends slot trace inner opening left after) (empty : slot.current = none) :
    after.current = none := by
  cases lends with
  | joins => cases empty
  | begins => cases left <;> rfl
  | opens => rfl

/-- An act that keeps to its scope is found to have left the slot empty if it was so before. -/
theorem Lends.eq_of_isInside {slot inner left after : Slot} {trace : TraceKey}
    {opening : List (Exchange (P.plus ambient))}
    (lends : Lends slot trace inner opening left after) (empty : slot.current = none)
    (kept : left.isInside = inner.isInside) : after = slot := by
  cases lends with
  | joins => cases empty
  | opens => rfl
  | begins =>
      cases left with
      | outside => cases kept
      | inside current => rfl

/-- However the requests of an audited act are replied to and whatever the act inside does, it is
enveloped by its reports. If there was no current trace there is none afterwards; and if the act
inside keeps to its scope, as every program does, the slot is then as it was. The line for failure
is the last one that the operation was described with, unless that is blank. -/
theorem audited_act_is_enveloped {source : Source} {operation : Operation} {act : Act P α}
    {slot after : Slot} {asked : List (Exchange (P.plus ambient))} {exit : Exit α}
    (course : Course (audited source operation act slot) asked (.done (exit, after))) :
    Enveloped source operation act slot asked exit after ∧
      (slot.current = none → after.current = none) ∧
      (act.KeepsScope → slot.current = none → after = slot) ∧
      ∀ start success changes, Operation.describe start success changes = .ok operation →
        ∀ line, operation.failure = some line ↔
          (changes.filterMap Adjustment.failure?).getLast? = some line.text ∧
            Text.isBlank line.text.toList = false := by
  obtain ⟨trace, inner, opening, left, within, bracketed, lends, whole, brackets, rfl⟩ :=
    course_audited course
  obtain ⟨began, ended, lines, closes, written⟩ := brackets.attempted
  refine ⟨⟨trace, inner, opening, left, within, began, ended, lines, lends,
    List.prefix_append opening bracketed, whole, closes, ?_, ?_⟩, lends.current_eq_none, ?_,
    fun start success changes described => failure_describe described⟩
  · rw [attempted_append, lends.attempted, List.nil_append, written]
  · rw [List.filterMap_append, lends.left?, List.nil_append, brackets.left?]
  · intro keeps empty
    exact lends.eq_of_isInside empty (keeps inner exit left ⟨within, whole⟩)

/-- An act that spoils its slot in every way, with an audited act inside, and then refuses. -/
def spoiling : Program Unit :=
  .set ⟨.ofNat 7⟩ <| .clear <|
    .audited "inner" "begin" "end" [] false (.enter ⟨.ofNat 8⟩ (.scope .finish .finish) .finish) <|
      .set ⟨.ofNat 9⟩ <| .fail (.refused (.warning "spoilt"))

def diving : Operation := ⟨⟨"dive begins"⟩, ⟨"dive ends"⟩, some ⟨"dive fails"⟩, .info⟩

/-- The act is audited inside an empty scope, on a stage that takes all records. -/
theorem spoiling_is_enveloped :
    let act := audited ⟨⟨"outer"⟩⟩ diving spoiling.perform (.inside none)
    let serve : Server ((Program.stage Unit).plus ambient) (Stage Unit) :=
      Stage.direct.both Stage.surround
    Enveloped ⟨⟨"outer"⟩⟩ diving spoiling.perform (.inside none)
        (act.transcript serve (.set ⟨0⟩ .epoch)) (.fault (.refused (.warning "spoilt")))
        (.inside none) ∧
      (act.run serve (.set ⟨0⟩ .epoch)).1.2 = .inside none := by
  intro act serve
  have course := course_transcript serve act (.set ⟨0⟩ .epoch)
  have law := audited_act_is_enveloped course
  exact ⟨law.1, law.2.2.1 (Program.keepsScope_perform spoiling) rfl⟩

end ClubOffice.Audit
