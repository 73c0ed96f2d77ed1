import ClubOffice.Audit.Program

/-!
# What programs are put together of

A program is performed by acts of a few kinds, one after the other and inside one another. A class
of acts that has the simple ones and is closed under putting them together has the performance of
every program that is one task alone. If it also has what is done with other tasks, it has the
performance of every program.
-/

namespace ClubOffice.Audit

variable {ν : Type}

def Observation.record? : Observation ν → Option Record
  | .written record => some record
  | _ => none

namespace Program

/-- Whether the program is one task alone: nowhere does it run or gather other tasks. -/
def alone : Program ν → Bool
  | .finish | .give _ | .fail _ | .crash _ => true
  | .spawn _ _ | .gather _ => false
  | .get rest | .isInside rest | .set _ rest | .clear rest | .note _ rest | .pause rest
  | .writes _ rest => rest.alone
  | .enter _ body rest | .scope body rest | .capture body rest | .audited _ _ _ _ _ body rest =>
      body.alone && rest.alone

/-- An announced act is audited, or it is not performed at all. -/
theorem announced_cases (source start success : String) (changes : List Adjustment)
    (act : Act (stage ν) (Option ν)) :
    (∃ fault, announced source start success changes act = Act.fail fault) ∨
      ∃ found operation, announced source start success changes act =
        Audit.audited found operation act := by
  unfold announced
  split
  · exact .inl ⟨_, rfl⟩
  · exact .inl ⟨_, rfl⟩
  · exact .inr ⟨_, _, rfl⟩

/-- A class of acts that is closed under what the programs of one task are put together of. What a
task shows is never a record; only the trail adds these to what is seen. -/
structure Closed (holds : (α : Type) → Act (stage ν) α → Prop) : Prop where
  finish : ∀ {α} (exit : Exit α), holds α (.finish exit)
  bind : ∀ {α β} {act : Act (stage ν) α} {after : α → Act (stage ν) β},
    holds α act → (∀ result, holds β (after result)) → holds β (act.bind after)
  exhibit : ∀ {observation}, observation.record? = none → holds Unit (exhibit observation)
  writes : ∀ reject, holds Unit (direct (.writes reject))
  slot : holds Slot .slot
  store : ∀ key, holds Unit (.changeSlot (.store key))
  clear : holds Unit (.changeSlot .clear)
  enter : ∀ {α act} key, holds α act → holds α (.enter key act)
  scope : ∀ {α act}, holds α act → holds α (.scope act)
  capture : ∀ {α act}, holds α act → holds (Exit α) (.capture act)
  settle : ∀ {α act}, holds α act → holds (Except Fault α) (.settle act)
  audited : ∀ {α act} source operation, holds α act →
    holds α (Audit.audited source operation act)

/-- Whether a class of acts has what is done with other tasks. -/
structure HasTasks (holds : (α : Type) → Act (stage ν) α → Prop) : Prop where
  asTask : ∀ {act}, holds (Option ν) act → holds Unit (asTask act)
  gather : holds Unit (direct .gather)

namespace Closed

variable {holds : (α : Type) → Act (stage ν) α → Prop} (closed : Closed holds)
include closed

theorem announced {act : Act (stage ν) (Option ν)} (held : holds _ act)
    (source start success : String) (changes : List Adjustment) :
    holds _ (announced source start success changes act) := by
  rcases announced_cases source start success changes act with ⟨fault, same⟩ | ⟨_, _, same⟩
  · rw [same]
    exact closed.finish _
  · rw [same]
    exact closed.audited _ _ held

theorem conclude (passOn : Bool) (outcome : Except Fault (Option ν)) :
    holds _ (conclude passOn outcome) := by
  refine closed.bind (closed.exhibit rfl) fun _ => ?_
  cases outcome with
  | ok result => exact closed.finish _
  | error cause => cases passOn <;> exact closed.finish _

/-- The class has the performance of a program, if it has other tasks wherever the program is not
one alone. -/
theorem perform (program : Program ν) (tasks : program.alone = false → HasTasks holds) :
    holds _ program.perform := by
  have parts {first second : Bool} (both : (first && second) = false → HasTasks holds) :
      (first = false → HasTasks holds) ∧ (second = false → HasTasks holds) :=
    ⟨fun other => both (Bool.and_eq_false_iff.2 (.inl other)),
      fun other => both (Bool.and_eq_false_iff.2 (.inr other))⟩
  induction program with
  | finish => exact closed.finish _
  | give value => exact closed.finish _
  | fail cause => exact closed.finish _
  | crash message => exact closed.finish _
  | get rest ih =>
      exact closed.bind closed.slot fun _ => closed.bind (closed.exhibit rfl) fun _ => ih tasks
  | isInside rest ih =>
      exact closed.bind closed.slot fun _ => closed.bind (closed.exhibit rfl) fun _ => ih tasks
  | set key rest ih =>
      refine closed.bind closed.slot fun _ => closed.bind (closed.store key) fun _ => ?_
      exact closed.bind (closed.exhibit rfl) fun _ => ih tasks
  | clear rest ih => exact closed.bind closed.clear fun _ => ih tasks
  | note text rest ih => exact closed.bind (closed.exhibit rfl) fun _ => ih tasks
  | pause rest ih => exact ih tasks
  | writes reject rest ih => exact closed.bind (closed.writes reject) fun _ => ih tasks
  | enter key body rest bodyIH restIH =>
      obtain ⟨bodyTasks, restTasks⟩ := parts tasks
      exact closed.bind (closed.enter key (bodyIH bodyTasks)) fun _ => restIH restTasks
  | scope body rest bodyIH restIH =>
      obtain ⟨bodyTasks, restTasks⟩ := parts tasks
      exact closed.bind (closed.scope (bodyIH bodyTasks)) fun _ => restIH restTasks
  | capture body rest bodyIH restIH =>
      obtain ⟨bodyTasks, restTasks⟩ := parts tasks
      refine closed.bind (closed.capture (bodyIH bodyTasks)) fun exit => ?_
      exact closed.bind (closed.exhibit rfl) fun _ => restIH restTasks
  | audited source start success changes passOn body rest bodyIH restIH =>
      obtain ⟨bodyTasks, restTasks⟩ := parts tasks
      have announced := closed.announced (bodyIH bodyTasks) source start success changes
      refine closed.bind (closed.settle announced) fun outcome => ?_
      exact closed.bind (closed.conclude passOn outcome) fun _ => restIH restTasks
  | spawn body rest bodyIH restIH =>
      have other := tasks rfl
      exact closed.bind (other.asTask (bodyIH fun _ => other)) fun _ => restIH fun _ => other
  | gather rest ih =>
      have other := tasks rfl
      exact closed.bind other.gather fun _ => ih fun _ => other

end Closed

end Program

end ClubOffice.Audit
