import ClubOffice.Audit.Program
import ClubOffice.Proofs.Audit.Bracketing

/-!
# Whose trace a report is under

A task whose programs leave the slot alone reports under the traces that it was itself given: what
it does outside any trace is reported under identifiers that it asked for, and what it does under a
trace is reported under that one, without asking for another.
-/

namespace ClubOffice.Audit

open Plan

variable {P : Interface} {α β ν : Type}

def given? : Exchange (P.plus ambient) → Option Uuid
  | ⟨.inr .freshId, uuid⟩ => some uuid
  | _ => none

/-- The identifiers that were asked for. -/
abbrev given (asked : List (Exchange (P.plus ambient))) : List Uuid := asked.filterMap given?

theorem given_append (first second : List (Exchange (P.plus ambient))) :
    given (first ++ second) = given first ++ given second :=
  List.filterMap_append

/-- Whether all that is reported is under the trace, and no identifier is asked for. -/
def Under (trace : TraceKey) (asked : List (Exchange (P.plus ambient))) : Prop :=
  given asked = [] ∧ ∀ record ∈ attempted asked, record.trace = trace

/-- Whether all that is reported is under identifiers that were asked for. -/
def Owned (asked : List (Exchange (P.plus ambient))) : Prop :=
  ∀ record ∈ attempted asked, record.trace.uuid ∈ given asked

/-- Whether at first an identifier is asked for, under which all that follows is reported. -/
def Opens (asked : List (Exchange (P.plus ambient))) : Prop :=
  asked = [] ∨ ∃ uuid later, asked = ⟨.inr .freshId, uuid⟩ :: later ∧ Under ⟨uuid⟩ later

theorem Opens.owned {asked : List (Exchange (P.plus ambient))} (opens : Opens asked) :
    Owned asked := by
  rcases opens with rfl | ⟨uuid, later, rfl, _, under⟩
  · exact List.forall_mem_nil _
  · intro record member
    have same : record.trace = ⟨uuid⟩ := under record member
    rw [same]
    exact List.mem_cons_self

/-- Whether a property holds of no exchanges, and of some followed by others if it holds of both. -/
structure Additive (property : List (Exchange P) → Prop) : Prop where
  nil : property []
  append : ∀ {first second}, property first → property second → property (first ++ second)

theorem additive_under (trace : TraceKey) :
    Additive (Under trace : List (Exchange (P.plus ambient)) → Prop) where
  nil := ⟨rfl, List.forall_mem_nil _⟩
  append {first second} under under' := by
    constructor
    · rw [given_append, under.1, under'.1, List.append_nil]
    · rw [attempted_append]
      exact List.forall_mem_append.2 ⟨under.2, under'.2⟩

theorem additive_owned : Additive (Owned : List (Exchange (P.plus ambient)) → Prop) where
  nil := List.forall_mem_nil _
  append {first second} owned owned' := by
    unfold Owned
    rw [attempted_append, given_append]
    refine List.forall_mem_append.2 ⟨fun record member => ?_, fun record member => ?_⟩
    · exact List.mem_append_left _ (owned record member)
    · exact List.mem_append_right _ (owned' record member)

/-- Whether all courses of a plan have the property, and it ends with the given slot. -/
def Keeps (property : List (Exchange (P.plus ambient)) → Prop) (slot : Slot)
    (plan : Plan (P.plus ambient) (Exit α × Slot)) : Prop :=
  ∀ asked rest, Course plan asked rest →
    property asked ∧ ∀ exit after, rest = .done (exit, after) → after = slot

namespace Keeps

variable {property other : List (Exchange (P.plus ambient)) → Prop} {slot last : Slot}
variable {plan : Plan (P.plus ambient) (Exit α × Slot)}

theorem imp (keeps : Keeps property slot plan) (implies : ∀ asked, property asked → other asked) :
    Keeps other slot plan := by
  intro asked rest course
  obtain ⟨holds, ends⟩ := keeps asked rest course
  exact ⟨implies asked holds, ends⟩

theorem done (nil : property []) (exit : Exit α) :
    Keeps property slot (.done (exit, slot)) := by
  intro asked rest course
  obtain ⟨rfl, rfl⟩ := course_done_iff.1 course
  refine ⟨nil, fun exit after same => ?_⟩
  cases same
  rfl

theorem ask (additive : Additive property) {request : (P.plus ambient).Request}
    {next : (P.plus ambient).Reply request → Plan (P.plus ambient) (Exit α × Slot)}
    (first : ∀ reply, property [⟨request, reply⟩])
    (later : ∀ reply, Keeps property slot (next reply)) :
    Keeps property slot (.ask request next) := by
  intro asked rest course
  rcases course_ask_iff.1 course with ⟨rfl, rfl⟩ | ⟨reply, asked, rfl, onward⟩
  · exact ⟨additive.nil, fun exit after ended => nomatch ended⟩
  · obtain ⟨holds, ends⟩ := later reply asked rest onward
    exact ⟨additive.append (first reply) holds, ends⟩

theorem bind (additive : Additive property) (keeps : Keeps property slot plan)
    {after : Exit α × Slot → Plan (P.plus ambient) (Exit β × Slot)}
    (later : ∀ exit, Keeps property last (after (exit, slot))) :
    Keeps property last (plan.bind after) := by
  intro asked rest course
  rcases course.of_bind with
    ⟨left, part, rfl⟩ | ⟨first, second, ⟨exit, found⟩, rfl, whole, onward⟩
  · obtain ⟨holds, ends⟩ := keeps asked left part
    refine ⟨holds, fun exit final ended => ?_⟩
    cases left with
    | ask request next => cases ended
    | done result =>
        obtain ⟨exit', found⟩ := result
        cases ends exit' found rfl
        exact (later exit' [] _ (.still _)).2 exit final ended
  · obtain ⟨holds, ends⟩ := keeps first _ whole
    cases ends exit found rfl
    obtain ⟨holds', ends'⟩ := later exit second rest onward
    exact ⟨additive.append holds holds', ends'⟩

section Acts

variable {act : Act P α} (additive : Additive property)

include additive

/-- An act that keeps the slot is followed by acts that are begun with the same slot. -/
theorem andThen (keeps : Keeps property slot (act slot)) {after : α → Act P β}
    (later : ∀ value, Keeps property slot (after value slot)) :
    Keeps property slot (act.bind after slot) := by
  refine keeps.bind additive fun exit => ?_
  cases exit with
  | value value => exact later value
  | fault cause => exact done additive.nil _
  | crash message => exact done additive.nil _

theorem capture (keeps : Keeps property slot (act slot)) :
    Keeps property slot (Act.capture act slot) :=
  keeps.bind additive fun exit => done additive.nil (.value exit)

theorem settle (keeps : Keeps property slot (act slot)) :
    Keeps property slot (Act.settle act slot) := by
  refine keeps.bind additive fun exit => ?_
  cases exit with
  | value value => exact done additive.nil _
  | fault cause => exact done additive.nil _
  | crash message => exact done additive.nil _

end Acts

theorem report {trace : TraceKey} (source : Source) (message : String) (severity : Severity)
    {later : Unit → Act P α} (keeps : Keeps (Under trace) slot (later () slot)) :
    Keeps (Under trace) slot ((Audit.report trace source message severity).bind later slot) := by
  refine ask (additive_under trace) (fun now => ⟨rfl, List.forall_mem_nil _⟩) fun now => ?_
  refine ask (additive_under trace) (fun taken => ⟨rfl, ?_⟩) fun taken => keeps
  exact List.forall_mem_singleton.2 rfl

/-- An act that keeps to a trace does so with the reports around it. -/
theorem reported {trace : TraceKey} {act : Act P α} (source : Source) (operation : Operation)
    (keeps : Keeps (Under trace) slot (act slot)) :
    Keeps (Under trace) slot (Audit.reported trace source operation act slot) := by
  refine report source _ _ (keeps.bind (additive_under trace) fun exit => ?_)
  cases closing : operation.closing exit with
  | none =>
      simp only [closing]
      exact done (additive_under trace).nil exit
  | some line =>
      simp only [closing]
      exact report source _ _ (done (additive_under trace).nil exit)

/-- An act that is audited outside any scope gets a trace of its own, which is gone afterwards. -/
theorem audited {act : Act P α} (source : Source) (operation : Operation)
    (keeps : ∀ uuid, Keeps (Under ⟨uuid⟩) (.inside (some ⟨uuid⟩)) (act (.inside (some ⟨uuid⟩)))) :
    Keeps Opens .outside (Audit.audited source operation act .outside) := by
  intro asked rest course
  rcases course_ask_iff.1 course with ⟨rfl, rfl⟩ | ⟨uuid, later, rfl, onward⟩
  · exact ⟨.inl rfl, fun exit after ended => nomatch ended⟩
  have additive := additive_under (P := P) ⟨uuid⟩
  let inside := Audit.reported ⟨uuid⟩ source operation act (.inside (some ⟨uuid⟩))
  have entered : Keeps (Under ⟨uuid⟩) (.inside none)
      (inside.bind fun result => .done (result.1, result.2.clear)) :=
    ((keeps uuid).reported source operation).bind additive fun exit => done additive.nil exit
  have left : Keeps (Under ⟨uuid⟩) .outside
      ((inside.bind fun result => .done (result.1, result.2.clear)).bind fun result =>
        .done (result.1, .outside)) :=
    entered.bind additive fun exit => done additive.nil exit
  obtain ⟨under, ends⟩ := left later rest onward
  exact ⟨.inr ⟨uuid, later, rfl, under⟩, ends⟩

end Keeps

end ClubOffice.Audit
