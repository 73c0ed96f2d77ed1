import ClubOffice.Proofs.Audit.Bracketing
import ClubOffice.Proofs.Audit.Composition

/-!
# Acts keep to their scope

Whatever a program does to its slot, it ends inside a scope if it was begun inside one, and outside
if it was begun outside: keys can be stored and cleared, but a scope is over only with the act that
it was opened for.
-/

namespace ClubOffice.Audit

open Plan

variable {P : Interface} {α β ν : Type}

namespace Slot

@[simp]
theorem isInside_store (key : TraceKey) (slot : Slot) :
    (slot.store key).isInside = slot.isInside := by
  cases slot <;> rfl

@[simp]
theorem isInside_clear (slot : Slot) : slot.clear.isInside = slot.isInside := by
  cases slot <;> rfl

end Slot

/-- Whether the act ends inside a scope just when it was begun inside one. -/
def Act.KeepsScope (act : Act P α) : Prop :=
  ∀ slot exit after, Ends (act slot) (exit, after) → after.isInside = slot.isInside

namespace Act.KeepsScope

variable {act : Act P α}

theorem finish (exit : Exit α) : (Act.finish exit : Act P α).KeepsScope := by
  intro slot found after ends
  cases ends_done_iff.1 ends
  rfl

theorem bind (keeps : act.KeepsScope) {after : α → Act P β}
    (later : ∀ result, (after result).KeepsScope) : (act.bind after).KeepsScope := by
  intro slot exit last ends
  obtain ⟨⟨found, between⟩, first, onward⟩ := ends_bind_iff.1 ends
  have kept := keeps slot found between first
  cases found with
  | value result => exact (later result between exit last onward).trans kept
  | fault cause =>
      cases ends_done_iff.1 onward
      exact kept
  | crash message =>
      cases ends_done_iff.1 onward
      exact kept

theorem observe (plan : Plan P α) : (Act.observe plan).KeepsScope := by
  intro slot exit after ends
  obtain ⟨result, _, onward⟩ := ends_bind_iff.1 ends
  cases ends_done_iff.1 onward
  rfl

theorem slot : (Act.slot : Act P Slot).KeepsScope := by
  intro slot exit after ends
  cases ends_done_iff.1 ends
  rfl

theorem changeSlot {change : Slot → Slot} (keeps : ∀ slot, (change slot).isInside = slot.isInside) :
    (Act.changeSlot change : Act P Unit).KeepsScope := by
  intro slot exit after ends
  cases ends_done_iff.1 ends
  exact keeps slot

theorem scope (act : Act P α) : (Act.scope act).KeepsScope := by
  intro slot exit after ends
  obtain ⟨⟨found, inner⟩, _, onward⟩ := ends_bind_iff.1 ends
  cases ends_done_iff.1 onward
  rfl

theorem enter (keeps : act.KeepsScope) (key : TraceKey) : (Act.enter key act).KeepsScope := by
  intro slot exit after ends
  obtain ⟨⟨found, inner⟩, first, onward⟩ := ends_bind_iff.1 ends
  have kept := keeps (slot.store key) found inner first
  cases ends_done_iff.1 onward
  simpa using kept

theorem capture (keeps : act.KeepsScope) : (Act.capture act).KeepsScope := by
  intro slot exit after ends
  obtain ⟨⟨found, inner⟩, first, onward⟩ := ends_bind_iff.1 ends
  have kept := keeps slot found inner first
  cases ends_done_iff.1 onward
  exact kept

theorem settle (keeps : act.KeepsScope) : (Act.settle act).KeepsScope := by
  intro slot exit after ends
  obtain ⟨⟨found, inner⟩, first, onward⟩ := ends_bind_iff.1 ends
  have kept := keeps slot found inner first
  cases found <;> cases ends_done_iff.1 onward <;> exact kept

/-- An audited act keeps to its scope even if it opens one for the act inside. -/
theorem audited (keeps : act.KeepsScope) (source : Source) (operation : Operation) :
    (Audit.audited source operation act).KeepsScope := by
  intro slot exit after ends
  obtain ⟨asked, course⟩ := ends
  obtain ⟨trace, inner, opening, left, within, bracketed, lends, whole, _⟩ := course_audited course
  have kept := keeps inner exit left ⟨within, whole⟩
  cases lends with
  | joins => exact kept
  | begins => exact (Slot.isInside_clear left).trans kept
  | opens => rfl

end Act.KeepsScope

namespace Program

open Act

theorem keepsScope_asTask (act : Act (stage ν) (Option ν)) : (asTask act).KeepsScope := by
  refine .bind (.observe _) fun _ slot exit after ends => ?_
  obtain ⟨⟨found, inner⟩, _, onward⟩ := ends_bind_iff.1 ends
  exact KeepsScope.observe _ slot exit after onward

theorem closed_keepsScope : Closed fun α (act : Act (stage ν) α) => act.KeepsScope where
  finish := .finish
  bind first later := first.bind later
  exhibit _ := .observe _
  writes _ := .observe _
  slot := .slot
  store key := .changeSlot (Slot.isInside_store key)
  clear := .changeSlot Slot.isInside_clear
  enter key keeps := keeps.enter key
  scope _ := .scope _
  capture := .capture
  settle := .settle
  audited source operation keeps := keeps.audited source operation

/-- A program keeps to the scope that it is performed in. -/
theorem keepsScope_perform (program : Program ν) : program.perform.KeepsScope :=
  closed_keepsScope.perform program fun _ => ⟨fun _ => keepsScope_asTask _, .observe _⟩

end Program

end ClubOffice.Audit
