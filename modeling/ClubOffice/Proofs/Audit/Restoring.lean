import ClubOffice.Audit.Lexical
import ClubOffice.Proofs.Plan.Ends

/-!
# Acts that give the slot back

An act gives the slot back when, however it ends, the slot is then as it was found. Such an act does
what a plan without any slot does, and acts that are built of such acts give the slot back as well.
-/

namespace ClubOffice.Audit

open Plan

variable {P : Interface} {α β ν : Type} {slot : Slot}

/-- Whether an act does what the plan does, and gives the slot back at every end. -/
def Restores (act : Act P α) (slot : Slot) (plan : Plan (P.plus ambient) (Exit α)) : Prop :=
  act slot = plan.bind fun exit => .done (exit, slot)

/-- Whether the slot has the property whenever there is more to be done after the act. -/
def Act.Leads (act : Act P α) (slot : Slot) (property : Slot → Prop) : Prop :=
  ∀ value after, Ends (act slot) (.value value, after) → property after

/-- Whether an act that is audited with the first slot can find the second: the same one if there is
a current key, and else one with a fresh key. -/
def Slot.HandsDown (slot inner : Slot) : Prop :=
  match slot.current with
  | some _ => inner = slot
  | none => ∃ key, inner = .inside (some key)

namespace Restores

variable {act : Act P α} {plan : Plan (P.plus ambient) (Exit α)}

theorem finish (exit : Exit α) : Restores (Act.finish exit : Act P α) slot (.done exit) := rfl

theorem ends (restores : Restores act slot plan) {exit : Exit α} (ends : Ends plan exit) :
    Ends (act slot) (exit, slot) := by
  rw [restores]
  exact ends.bind (ends_done _)

theorem leads (restores : Restores act slot plan) {property : Slot → Prop}
    (leads : act.Leads slot property) {value : α} (ends : Ends plan (.value value)) :
    property slot :=
  leads value slot (restores.ends ends)

theorem bind (restores : Restores act slot plan) {after : α → Act P β}
    {next : Exit α → Plan (P.plus ambient) (Exit β)}
    (value : ∀ result, Ends plan (.value result) →
      Restores (after result) slot (next (.value result)))
    (fault : ∀ cause, next (.fault cause) = .done (.fault cause))
    (crash : ∀ message, next (.crash message) = .done (.crash message)) :
    Restores (act.bind after) slot (plan.bind next) := by
  unfold Restores Act.bind
  rw [restores, bind_assoc, bind_assoc]
  refine bind_congr fun exit ends => ?_
  cases exit with
  | value result => exact value result ends
  | fault cause =>
      rw [fault]
      rfl
  | crash message =>
      rw [crash]
      rfl

theorem capture (restores : Restores act slot plan) {after : Exit α → Act P β}
    {next : Exit α → Plan (P.plus ambient) (Exit β)}
    (later : ∀ exit, Ends plan exit → Restores (after exit) slot (next exit)) :
    Restores ((Act.capture act).bind after) slot (plan.bind next) := by
  unfold Restores Act.bind Act.capture
  rw [restores, bind_assoc, bind_assoc, bind_assoc]
  exact bind_congr fun exit ends => later exit ends

theorem enter (empty : slot.current = none) (key : TraceKey)
    (restores : Restores act (slot.store key) plan) : Restores (Act.enter key act) slot plan := by
  unfold Restores Act.enter Act.atEnd
  rw [restores, bind_assoc]
  refine bind_congr fun exit _ => ?_
  have back : (slot.store key).clear = slot := by
    rcases slot with _ | _ | other
    · rfl
    · rfl
    · cases empty
  exact congrArg (fun slot => Plan.done (exit, slot)) back

theorem scope (restores : Restores act (.inside none) plan) :
    Restores (Act.scope act) slot plan := by
  unfold Restores Act.scope
  rw [restores, bind_assoc]
  rfl

theorem report (restores : Restores act slot plan) (trace : TraceKey) (source : Source)
    (message : String) (severity : Severity) :
    Restores ((Audit.report trace source message severity).bind fun _ => act) slot
      (reporting trace source message severity plan) := by
  refine ask_congr fun now => ?_
  exact ask_congr fun _ => restores

theorem reported (restores : Restores act slot plan) (trace : TraceKey) (source : Source)
    (operation : Operation) :
    Restores (Audit.reported trace source operation act) slot
      (enveloping trace source operation plan) := by
  refine report ?_ trace source _ _
  unfold Restores reportEnd
  rw [restores, bind_assoc, bind_assoc]
  refine bind_congr fun exit _ => ?_
  cases closing : operation.closing exit with
  | none => simp only [done_bind, closing]
  | some line =>
      simp only [done_bind, closing]
      exact report (finish exit) trace source line.1 line.2

theorem reportedInScope {body : Slot → Plan (P.plus ambient) (Exit α)} {current : Option TraceKey}
    (restores : ∀ inner, (Slot.inside current).HandsDown inner → Restores act inner (body inner))
    (source : Source) (operation : Operation) :
    Restores (Audit.reportedInScope source operation act) (.inside current)
      (envelopingIn source operation body (.inside current)) := by
  cases current with
  | none =>
      refine ask_congr fun uuid => ?_
      exact enter rfl ⟨uuid⟩ ((restores _ ⟨⟨uuid⟩, rfl⟩).reported ⟨uuid⟩ source operation)
  | some trace => exact (restores _ rfl).reported trace source operation

/-- An audited act gives the slot back, whether it joins a trace, begins one or opens a scope. -/
theorem audited {body : Slot → Plan (P.plus ambient) (Exit α)}
    (restores : ∀ inner, slot.HandsDown inner → Restores act inner (body inner))
    (source : Source) (operation : Operation) :
    Restores (Audit.audited source operation act) slot
      (envelopingIn source operation body slot) := by
  cases slot with
  | outside => exact scope (@reportedInScope P α act body none restores source operation)
  | inside current => exact reportedInScope restores source operation

end Restores

namespace Program

variable {act : Act (stage ν) α} {plan : Plan ((stage ν).plus ambient) (Exit α)}

theorem restores_direct (restores : Restores act slot plan) (request : Request ν) :
    Restores ((direct request).bind fun _ => act) slot (directing request plan) :=
  ask_congr fun _ => restores

/-- What comes after a settled act whose result is shown, if its fault is not passed on. -/
theorem restores_concluded {act : Act (stage ν) (Option ν)}
    {plan : Plan ((stage ν).plus ambient) (End ν)} (restores : Restores act slot plan)
    (passOn : Bool) {rest : Act (stage ν) (Option ν)}
    {next : Plan ((stage ν).plus ambient) (End ν)}
    (later : Ends ((Act.settle act).bind (conclude passOn) slot) (.value (), slot) →
      Restores rest slot next) :
    Restores
      ((Act.settle act).bind fun outcome => (conclude passOn outcome).bind fun _ => rest) slot
      (plan.bind (concluding passOn next)) := by
  have reached {exit : End ν} (ends : Ends plan exit)
      (onward : Ends ((Act.settle (Act.finish exit)).bind (conclude passOn) slot)
        (.value (), slot)) : Restores rest slot next := by
    refine later ?_
    unfold Act.bind Act.settle
    rw [restores, bind_assoc, bind_assoc]
    exact ends.bind onward
  unfold Restores Act.bind Act.settle
  rw [restores, bind_assoc, bind_assoc, bind_assoc]
  refine bind_congr fun exit ends => ?_
  cases exit with
  | value result =>
      refine ask_congr fun _ => ?_
      exact reached ends (.ask () (ends_done _))
  | fault cause =>
      refine ask_congr fun _ => ?_
      cases passOn with
      | true => rfl
      | false => exact reached ends (.ask () (ends_done _))
  | crash message => rfl

end Program

end ClubOffice.Audit
