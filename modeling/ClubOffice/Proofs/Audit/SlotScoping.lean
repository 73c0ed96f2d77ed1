import ClubOffice.Audit.Rehearsal
import ClubOffice.Proofs.Audit.Restoring

/-!
# Slots and lexical scoping

A task has one slot, which programs change in place. Unless they store or clear by hand, or enter a
key while there is a current one, they find in it what the constructs around them hand down: a
program performed with the slot does what it does when it is read lexically.
-/

namespace ClubOffice.Audit.Program

open Plan

variable {ν σ : Type}

/-- Whether no key is entered while there is a current one. A program goes on only after a body that
ended with a value, or whose end was caught, and with the slot as it was then left. -/
def EntersFree : Program ν → Slot → Prop
  | .finish, _ | .give _, _ | .fail _, _ | .crash _, _ => True
  | .get rest, slot | .isInside rest, slot | .note _ rest, slot | .pause rest, slot
  | .writes _ rest, slot | .gather rest, slot => rest.EntersFree slot
  | .set key rest, slot => rest.EntersFree (slot.store key)
  | .clear rest, slot => rest.EntersFree slot.clear
  | .enter key body rest, slot =>
      slot.current = none ∧ body.EntersFree (slot.store key) ∧
        (Act.enter key body.perform).Leads slot rest.EntersFree
  | .scope body rest, slot =>
      body.EntersFree (.inside none) ∧ (Act.scope body.perform).Leads slot rest.EntersFree
  | .capture body rest, slot =>
      body.EntersFree slot ∧ (Act.capture body.perform).Leads slot rest.EntersFree
  | .audited source start success changes passOn body rest, slot =>
      (∀ found operation, Source.make source = .ok found →
        Operation.describe start success changes = .ok operation →
          ∀ inner, slot.HandsDown inner → body.EntersFree inner) ∧
        ((Act.settle (announced source start success changes body.perform)).bind
          (conclude passOn)).Leads slot rest.EntersFree
  | .spawn body rest, slot =>
      body.EntersFree .outside ∧ (asTask body.perform).Leads slot rest.EntersFree

/-- An act that is announced gives the slot back if the act inside does so wherever it is reported,
which it is only if the names can be made. -/
theorem restores_announced {act : Act (stage ν) (Option ν)} {slot : Slot}
    {body : Slot → Plan ((stage ν).plus ambient) (End ν)}
    (source start success : String) (changes : List Adjustment)
    (restores : ∀ found operation, Source.make source = .ok found →
      Operation.describe start success changes = .ok operation →
        ∀ inner, slot.HandsDown inner → Restores act inner (body inner)) :
    Restores (announced source start success changes act) slot
      (announcing source start success changes body slot) := by
  unfold announced announcing
  cases named : Source.make source with
  | error cause => exact .finish _
  | ok found =>
      cases described : Operation.describe start success changes with
      | error cause => exact .finish _
      | ok operation => exact .audited (restores found operation named described) found operation

theorem restores_asTask {act : Act (stage ν) (Option ν)} {slot : Slot}
    {plan : Plan ((stage ν).plus ambient) (End ν)} (restores : Restores act .outside plan)
    {rest : Act (stage ν) (Option ν)} {next : Plan ((stage ν).plus ambient) (End ν)}
    (later : Ends (asTask act slot) (.value (), slot) → Restores rest slot next) :
    Restores ((asTask act).bind fun _ => rest) slot
      (directing .openTask (plan.bind fun exit => directing (.closeTask exit) next)) := by
  have task : asTask act slot =
      directing .openTask (plan.bind fun exit =>
        directing (.closeTask exit) (.done (.value (), slot))) := by
    refine ask_congr fun _ => ?_
    exact (congrArg (Plan.bind · _) restores).trans (bind_assoc _ _ _)
  unfold Restores Act.bind
  rw [task]
  refine ask_congr fun _ => ?_
  refine (bind_assoc _ _ _).trans ((bind_congr fun exit ends => ?_).trans (bind_assoc _ _ _).symm)
  refine ask_congr fun _ => later ?_
  rw [task]
  exact .ask () (ends.bind (.ask () (ends_done _)))

/-- A program performed with the slot does what it does when it is read lexically, and gives the
slot back at every end. -/
theorem restores_perform (program : Program ν) (slot : Slot) (away : program.handsOff = true)
    (free : program.EntersFree slot) :
    Restores program.perform slot (program.evaluate slot) := by
  -- A body finds another slot than the program around it, and the rest finds the same slot again.
  induction program generalizing slot with
  | finish => exact .finish _
  | give value => exact .finish _
  | fail cause => exact .finish _
  | crash message => exact .finish _
  | get rest ih => exact restores_direct (ih slot away free) _
  | isInside rest ih => exact restores_direct (ih slot away free) _
  | set key rest ih => cases away
  | clear rest ih => cases away
  | note text rest ih => exact restores_direct (ih slot away free) _
  | pause rest ih => exact ih slot away free
  | writes reject rest ih => exact restores_direct (ih slot away free) _
  | gather rest ih => exact restores_direct (ih slot away free) _
  | enter key body rest bodyIH restIH =>
      obtain ⟨bodyAway, restAway⟩ := Bool.and_eq_true_iff.1 away
      obtain ⟨empty, bodyFree, restFree⟩ := free
      have restores := (bodyIH _ bodyAway bodyFree).enter empty key
      refine restores.bind (fun value ends => ?_) (fun _ => rfl) fun _ => rfl
      exact restIH slot restAway (restores.leads restFree ends)
  | scope body rest bodyIH restIH =>
      obtain ⟨bodyAway, restAway⟩ := Bool.and_eq_true_iff.1 away
      obtain ⟨bodyFree, restFree⟩ := free
      have restores : Restores (Act.scope body.perform) slot (body.evaluate (.inside none)) :=
        (bodyIH _ bodyAway bodyFree).scope
      refine restores.bind (fun value ends => ?_) (fun _ => rfl) fun _ => rfl
      exact restIH slot restAway (restores.leads restFree ends)
  | capture body rest bodyIH restIH =>
      obtain ⟨bodyAway, restAway⟩ := Bool.and_eq_true_iff.1 away
      obtain ⟨bodyFree, restFree⟩ := free
      have restores := bodyIH slot bodyAway bodyFree
      refine restores.capture fun exit ends => restores_direct (restIH slot restAway ?_) _
      exact restFree exit slot ((restores.ends ends).bind (ends_done _))
  | audited source start success changes passOn body rest bodyIH restIH =>
      obtain ⟨bodyAway, restAway⟩ := Bool.and_eq_true_iff.1 away
      obtain ⟨bodyFree, restFree⟩ := free
      have restores := restores_announced source start success changes
        fun found operation named described inner handed =>
          bodyIH inner bodyAway (bodyFree found operation named described inner handed)
      refine restores_concluded restores passOn fun ends => ?_
      exact restIH slot restAway (restFree () slot ends)
  | spawn body rest bodyIH restIH =>
      obtain ⟨bodyAway, restAway⟩ := Bool.and_eq_true_iff.1 away
      obtain ⟨bodyFree, restFree⟩ := free
      refine restores_asTask (bodyIH .outside bodyAway bodyFree) fun ends => ?_
      exact restIH slot restAway (restFree () slot ends)

/-- Storing and clearing by hand and entering a key over another one apart, the slot is lexically
scoped: against every server, a program performed with it asks and is replied the same, in the same
order, and ends the same way as when it is read lexically, and the slot is as it was found. -/
theorem slot_is_lexically_scoped (program : Program ν) (slot : Slot)
    (away : program.handsOff = true) (free : program.EntersFree slot)
    (serve : Server ((stage ν).plus ambient) σ) (state : σ) :
    (program.perform slot).transcript serve state =
        (program.evaluate slot).transcript serve state ∧
      (program.perform slot).run serve state =
        ((((program.evaluate slot).run serve state).1, slot),
          ((program.evaluate slot).run serve state).2) := by
  have same : program.perform slot = (program.evaluate slot).bind fun exit => .done (exit, slot) :=
    restores_perform program slot away free
  constructor
  · rw [same, transcript_bind, transcript_done, List.append_nil]
  · rw [same, run_bind]
    rfl

/-- A key is entered and taken away, and then an audited act crashes inside another one. -/
def crashing : Program Unit :=
  .scope
    (.enter ⟨.ofNat 7⟩ (.get .finish) <|
      .audited "outer" "begin" "end" [] false
        (.capture (.audited "inner" "begin" "end" [] true (.crash "out of air") .finish)
          (.get (.fail (.validation "spoilt"))))
        (.get .finish))
    (.isInside .finish)

theorem crashing_is_lexically_scoped :
    (crashing.rehearse (.set ⟨0⟩ .epoch)).1 = (.value none, .outside) ∧
      (crashing.perform .outside).transcript (Stage.direct.both Stage.surround) (.set ⟨0⟩ .epoch) =
        (crashing.evaluate .outside).transcript (Stage.direct.both Stage.surround)
          (.set ⟨0⟩ .epoch) := by
  have free : crashing.EntersFree .outside := by
    simp [crashing, EntersFree, Act.Leads, Slot.current]
  have same := slot_is_lexically_scoped crashing .outside rfl free
    (Stage.direct.both Stage.surround) (.set ⟨0⟩ .epoch)
  exact ⟨rfl, same.1⟩

end ClubOffice.Audit.Program
