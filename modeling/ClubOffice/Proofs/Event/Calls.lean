import ClubOffice.Event.Lifecycle
import ClubOffice.Proofs.Audit.EnvelopeCourse
import ClubOffice.Proofs.Event.Accounts

/-!
# Calls that create, cancel and close events

The calls on the life of events, carried out by plans over a register and the surroundings, and the
courses that each of them can take. A creation saves an open event, a cancellation makes at most one
move, and a closing moves events that it was told are due and counts its moves.
-/

namespace ClubOffice.Event

open Audit Plan

/-- The calls on the life of events. Audited ones are made by a task with some slot. -/
inductive Call
  | create (draft : Draft) (slot : Slot)
  | cancel (key : EventKey) (slot : Slot)
  | close
deriving DecidableEq

abbrev calls : Interface where
  Request := Call
  Reply
    | .create _ _ => Exit Event × Slot
    | .cancel _ _ => Exit Event × Slot
    | .close => Except Fault Nat

def carryOut : Service calls (registry.plus ambient)
  | .create draft slot => create draft slot
  | .cancel key slot => cancel key slot
  | .close => closeElapsed

/-- The exchanges with the register among all exchanges. -/
abbrev told (asked : List (Exchange (registry.plus ambient))) : List (Exchange registry) :=
  asked.filterMap Exchange.left?

theorem createSteps_apply (draft : Draft) (slot : Slot) :
    createSteps draft slot =
      .ask (.inr .freshId) fun uuid =>
        match plan ⟨uuid⟩ draft with
        | .error fault => .done (.fault fault, slot)
        | .ok event =>
            .ask (.inl (.save event)) fun
              | .ok () => .done (.value event, slot)
              | .error fault => .done (.fault fault, slot) := by
  refine ask_congr fun uuid => ?_
  change (Act.check (plan ⟨uuid⟩ draft) >>= _) slot = _
  cases plan ⟨uuid⟩ draft with
  | error fault => rfl
  | ok event =>
      refine ask_congr fun reply => ?_
      rcases reply with fault | ⟨⟩ <;> rfl

theorem cancelSteps_apply (key : EventKey) (slot : Slot) :
    cancelSteps key slot =
      .ask (.inl (.find key)) fun
        | .error fault => .done (.fault fault, slot)
        | .ok none => .done (.fault (unknown key), slot)
        | .ok (some event) =>
            if event.status = .opened then
              .ask (.inl (.update key .opened .cancelled)) fun
                | .error fault => .done (.fault fault, slot)
                | .ok true => .done (.value { event with status := .cancelled }, slot)
                | .ok false => .done (.fault (notCancellable key), slot)
            else .done (.fault (notCancellable key), slot) := by
  refine ask_congr fun reply => ?_
  rcases reply with fault | _ | event
  · rfl
  · rfl
  change (if event.status = .opened then (_ : Act registry Event) else _) slot =
    if event.status = .opened then _ else _
  by_cases opened : event.status = .opened
  · rw [if_pos opened, if_pos opened]
    refine ask_congr fun reply => ?_
    rcases reply with fault | _ | _
    · rfl
    · rfl
    · have moved : event.moveTo .cancelled = .ok { event with status := .cancelled } :=
        if_pos (by rw [opened]; rfl)
      change Act.check (event.moveTo .cancelled) slot = _
      rw [moved]
      rfl
  · rw [if_neg opened, if_neg opened]
    rfl

def SavesOpened (told : List (Exchange registry)) : Prop :=
  ∀ exchange ∈ told, ∀ event, exchange.1 = .save event → event.status = .opened

/-- Whether every event that was to be saved had been planned from a draft. -/
def SavesPlanned (told : List (Exchange registry)) : Prop :=
  ∀ exchange ∈ told, ∀ event, exchange.1 = .save event →
    ∃ key draft, plan key draft = .ok event

theorem savesPlanned_nil : SavesPlanned [] := List.forall_mem_nil _

theorem SavesPlanned.cons {told : List (Exchange registry)} (later : SavesPlanned told)
    {exchange : Exchange registry} (other : ∀ event, exchange.1 ≠ .save event) :
    SavesPlanned (exchange :: told) :=
  List.forall_mem_cons.2 ⟨fun event same => absurd same (other event), later⟩

theorem SavesPlanned.opened {told : List (Exchange registry)} (planned : SavesPlanned told) :
    SavesOpened told := by
  intro exchange member event same
  obtain ⟨key, draft, made⟩ := planned exchange member event same
  exact status_plan made

/-- A creation makes no move, and it ends well only when its event was saved. -/
theorem course_create {draft : Draft} {slot : Slot}
    {asked : List (Exchange (registry.plus ambient))}
    {rest : Plan (registry.plus ambient) (Exit Event × Slot)}
    (course : Course (create draft slot) asked rest) :
    SavesPlanned (told asked) ∧ Registry.moves (told asked) = [] ∧
      ∀ event final, rest = .done (.value event, final) →
        ⟨.save event, .ok ()⟩ ∈ told asked := by
  obtain ⟨found, inner, left, within, same, whole⟩ := encloses_audited _ _ _ _ _ _ course
  suffices ends : SavesPlanned (told inner) ∧ Registry.moves (told inner) = [] ∧
      ∀ event final, left = .done (.value event, final) → ⟨.save event, .ok ()⟩ ∈ told inner by
    unfold told
    rw [← same]
    refine ⟨ends.1, ends.2.1, fun event final ended => ?_⟩
    obtain ⟨final', ended'⟩ := whole _ _ ended
    exact ends.2.2 event final' ended'
  rw [createSteps_apply] at within
  rcases course_ask_iff.1 within with ⟨rfl, rfl⟩ | ⟨uuid, later, rfl, onward⟩
  · exact ⟨savesPlanned_nil, rfl, fun _ _ ended => by cases ended⟩
  cases made : plan ⟨uuid⟩ draft with
  | error fault =>
      rw [made] at onward
      obtain ⟨rfl, rfl⟩ := course_done_iff.1 onward
      exact ⟨savesPlanned_nil, rfl, fun _ _ ended => by cases ended⟩
  | ok event =>
      have planned (reply : Except Fault Unit) : SavesPlanned [⟨.save event, reply⟩] := by
        refine List.forall_mem_singleton.2 fun other same => ?_
        cases same
        exact ⟨_, draft, made⟩
      rw [made] at onward
      rcases course_ask_iff.1 onward with ⟨rfl, rfl⟩ | ⟨reply, last, rfl, ending⟩
      · exact ⟨savesPlanned_nil, rfl, fun _ _ ended => by cases ended⟩
      rcases reply with fault | ⟨⟩
      · obtain ⟨rfl, rfl⟩ := course_done_iff.1 ending
        exact ⟨planned _, rfl, fun _ _ ended => by cases ended⟩
      · obtain ⟨rfl, rfl⟩ := course_done_iff.1 ending
        refine ⟨planned _, rfl, fun other final ended => ?_⟩
        cases ended
        exact List.mem_singleton.2 rfl

/-- The one move that a cancellation can make is that of its event to cancelled. It ends well if it
made the move, and ends in a fault if it is done and did not. -/
theorem course_cancel {key : EventKey} {slot : Slot}
    {asked : List (Exchange (registry.plus ambient))}
    {rest : Plan (registry.plus ambient) (Exit Event × Slot)}
    (course : Course (cancel key slot) asked rest) :
    SavesPlanned (told asked) ∧
      ((Registry.moves (told asked) = [] ∧ ∀ event final, rest ≠ .done (.value event, final)) ∨
        (Registry.moves (told asked) = [(key, .cancelled)] ∧
          ∀ exit final, rest = .done (exit, final) → ∃ event, exit = .value event)) := by
  obtain ⟨found, inner, left, within, same, whole⟩ := encloses_audited _ _ _ _ _ _ course
  suffices ends : SavesPlanned (told inner) ∧
      ((Registry.moves (told inner) = [] ∧ ∀ event final, left ≠ .done (.value event, final)) ∨
        (Registry.moves (told inner) = [(key, .cancelled)] ∧
          ∀ exit final, left = .done (exit, final) → ∃ event, exit = .value event)) by
    unfold told
    rw [← same]
    refine ⟨ends.1, ?_⟩
    rcases ends.2 with ⟨unmoved, failed⟩ | ⟨moved, well⟩
    · refine .inl ⟨unmoved, fun event final ended => ?_⟩
      obtain ⟨final', ended'⟩ := whole _ _ ended
      exact failed event final' ended'
    · refine .inr ⟨moved, fun exit final ended => ?_⟩
      obtain ⟨final', ended'⟩ := whole _ _ ended
      exact well exit final' ended'
  rw [cancelSteps_apply] at within
  rcases course_ask_iff.1 within with ⟨rfl, rfl⟩ | ⟨reply, later, rfl, onward⟩
  · exact ⟨savesPlanned_nil, .inl ⟨rfl, fun _ _ ended => by cases ended⟩⟩
  have looked : SavesPlanned [⟨.find key, reply⟩] :=
    savesPlanned_nil.cons fun _ same => by cases same
  rcases reply with fault | _ | event
  · obtain ⟨rfl, rfl⟩ := course_done_iff.1 onward
    exact ⟨looked, .inl ⟨rfl, fun _ _ ended => by cases ended⟩⟩
  · obtain ⟨rfl, rfl⟩ := course_done_iff.1 onward
    exact ⟨looked, .inl ⟨rfl, fun _ _ ended => by cases ended⟩⟩
  by_cases opened : event.status = .opened
  · simp only [if_pos opened] at onward
    rcases course_ask_iff.1 onward with ⟨rfl, rfl⟩ | ⟨updated, last, rfl, ending⟩
    · exact ⟨looked, .inl ⟨rfl, fun _ _ ended => by cases ended⟩⟩
    have tried : SavesPlanned [⟨.find key, .ok (some event)⟩,
        ⟨.update key .opened .cancelled, updated⟩] :=
      (savesPlanned_nil.cons fun _ same => by cases same).cons fun _ same => by cases same
    rcases updated with fault | _ | _
    · obtain ⟨rfl, rfl⟩ := course_done_iff.1 ending
      exact ⟨tried, .inl ⟨rfl, fun _ _ ended => by cases ended⟩⟩
    · obtain ⟨rfl, rfl⟩ := course_done_iff.1 ending
      exact ⟨tried, .inl ⟨rfl, fun _ _ ended => by cases ended⟩⟩
    · obtain ⟨rfl, rfl⟩ := course_done_iff.1 ending
      exact ⟨tried, .inr ⟨rfl, fun _ _ ended => by cases ended; exact ⟨_, rfl⟩⟩⟩
  · simp only [if_neg opened] at onward
    obtain ⟨rfl, rfl⟩ := course_done_iff.1 onward
    exact ⟨looked, .inl ⟨rfl, fun _ _ ended => by cases ended⟩⟩

/-- What is left of a closing moves some of its events to held, and counts them if no call fails. -/
theorem course_holdEach {events : List Event} {held : Nat}
    {asked : List (Exchange (registry.plus ambient))}
    {rest : Plan (registry.plus ambient) (Except Fault Nat)}
    (course : Course (holdEach events held) asked rest) :
    SavesPlanned (told asked) ∧
      (∀ move ∈ Registry.moves (told asked), ∃ event ∈ events, move = (event.key, .held)) ∧
      ∀ result, rest = .done result →
        result = .ok (held + (Registry.moves (told asked)).length) ∨
          ∃ exchange ∈ told asked, Registry.Fails exchange := by
  induction events generalizing held asked with
  | nil =>
      obtain ⟨rfl, rfl⟩ := course_done_iff.1 course
      exact ⟨savesPlanned_nil, List.forall_mem_nil _, fun _ ended => by cases ended; exact .inl rfl⟩
  | cons event events ih =>
      rcases course_ask_iff.1 course with ⟨rfl, rfl⟩ | ⟨reply, later, rfl, onward⟩
      · exact ⟨savesPlanned_nil, List.forall_mem_nil _, fun _ ended => by cases ended⟩
      rcases reply with fault | _ | _
      · obtain ⟨rfl, rfl⟩ := course_done_iff.1 onward
        refine ⟨savesPlanned_nil.cons (fun _ same => by cases same), List.forall_mem_nil _, ?_⟩
        exact fun _ _ => .inr ⟨_, List.mem_singleton_self _, trivial⟩
      · obtain ⟨planned, moved, ends⟩ := ih onward
        refine ⟨planned.cons (fun _ same => by cases same), fun move member => ?_,
          fun result ended => ?_⟩
        · obtain ⟨other, present, same⟩ := moved move member
          exact ⟨other, List.mem_cons_of_mem event present, same⟩
        · rcases ends result ended with counted | ⟨exchange, member, fails⟩
          · exact .inl counted
          · exact .inr ⟨exchange, List.mem_cons_of_mem _ member, fails⟩
      · obtain ⟨planned, moved, ends⟩ := ih onward
        refine ⟨planned.cons (fun _ same => by cases same), fun move member => ?_,
          fun result ended => ?_⟩
        · rcases List.mem_cons.1 member with rfl | earlier
          · exact ⟨event, List.mem_cons_self, rfl⟩
          · obtain ⟨other, present, same⟩ := moved move earlier
            exact ⟨other, List.mem_cons_of_mem event present, same⟩
        · rcases ends result ended with counted | ⟨exchange, member, fails⟩
          · refine .inl (counted.trans (congrArg Except.ok ?_))
            exact (Nat.add_assoc held 1 _).trans (congrArg (held + ·) (Nat.add_comm 1 _))
          · exact .inr ⟨exchange, List.mem_cons_of_mem _ member, fails⟩

/-- A closing moves only events that were listed as due at the time that it read first, and it ends
with the number of its moves if no call fails. -/
theorem course_close {asked : List (Exchange (registry.plus ambient))}
    {rest : Plan (registry.plus ambient) (Except Fault Nat)}
    (course : Course closeElapsed asked rest) :
    SavesPlanned (told asked) ∧
      (∀ move ∈ Registry.moves (told asked), ∃ now candidates event,
        asked.head? = some ⟨.inr .now, now⟩ ∧ ⟨.due now, .ok candidates⟩ ∈ told asked ∧
          event ∈ candidates ∧ event.endsAt ≤ now ∧ move = (event.key, .held)) ∧
      ∀ result, rest = .done result →
        result = .ok (Registry.moves (told asked)).length ∨
          ∃ exchange ∈ told asked, Registry.Fails exchange := by
  rcases course_ask_iff.1 course with ⟨rfl, rfl⟩ | ⟨now, later, rfl, onward⟩
  · exact ⟨savesPlanned_nil, List.forall_mem_nil _, fun _ ended => by cases ended⟩
  rcases course_ask_iff.1 onward with ⟨rfl, rfl⟩ | ⟨reply, last, rfl, holding⟩
  · exact ⟨savesPlanned_nil, List.forall_mem_nil _, fun _ ended => by cases ended⟩
  rcases reply with fault | candidates
  · obtain ⟨rfl, rfl⟩ := course_done_iff.1 holding
    refine ⟨savesPlanned_nil.cons (fun _ same => by cases same), List.forall_mem_nil _, ?_⟩
    exact fun _ _ => .inr ⟨_, List.mem_singleton_self _, trivial⟩
  · obtain ⟨planned, moved, ends⟩ := course_holdEach holding
    refine ⟨planned.cons (fun _ same => by cases same), fun move member => ?_,
      fun result ended => ?_⟩
    · obtain ⟨event, due, same⟩ := moved move member
      obtain ⟨present, isDue⟩ := List.mem_filter.1 due
      exact ⟨now, candidates, event, rfl, List.mem_cons_self, present,
        ((isDue_iff event now).1 isDue).2, same⟩
    · rcases ends result ended with counted | ⟨exchange, member, fails⟩
      · exact .inl (counted.trans (congrArg Except.ok (Nat.zero_add _)))
      · exact .inr ⟨exchange, List.mem_cons_of_mem _ member, fails⟩

theorem savesPlanned_of_course {call : Call} {asked : List (Exchange (registry.plus ambient))}
    {rest : Plan (registry.plus ambient) (calls.Reply call)}
    (course : Course (carryOut call) asked rest) : SavesPlanned (told asked) := by
  cases call with
  | create draft slot => exact (course_create course).1
  | cancel key slot => exact (course_cancel course).1
  | close => exact (course_close course).1

theorem savesOpened_of_course {call : Call} {asked : List (Exchange (registry.plus ambient))}
    {rest : Plan (registry.plus ambient) (calls.Reply call)}
    (course : Course (carryOut call) asked rest) : SavesOpened (told asked) :=
  (savesPlanned_of_course course).opened

/-- The register next to surroundings that reply the same every time. -/
def steady (uuid : Uuid) (now : Time.Instant) : Server (registry.plus ambient) Register :=
  Server.both Register.serve fun
    | .freshId, register => (uuid, register)
    | .now, register => (now, register)
    | .write _, register => (.ok (), register)

end ClubOffice.Event
