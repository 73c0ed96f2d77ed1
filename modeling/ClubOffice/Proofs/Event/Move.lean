import ClubOffice.Event.Register
import ClubOffice.Plan.Transcript
import ClubOffice.Proofs.Keyed

/-!
# Moves of events

An event moves when it stops being open. The register and what was exchanged with it tell of the
same moves: every event that is not open any more was moved by exactly one exchange, to the status
that it has, and every such exchange moved an event of the register.
-/

namespace ClubOffice.Event

open Time

abbrev Move := EventKey × Status

/-- The move of an event that is not open any more. -/
def move? (event : Event) : Option Move :=
  if event.status = .opened then none else some (event.key, event.status)

namespace Register

def moves (register : Register) : List Move := register.events.filterMap Event.move?

/-- Whether the register holds the event, perhaps with another status. -/
def Keeps (register : Register) (event : Event) : Prop :=
  ∃ stored ∈ register.events, stored.key = event.key ∧ stored.draft = event.draft

theorem Keeps.setStatus {register : Register} {event : Event} (keeps : register.Keeps event)
    (key : EventKey) (next : Status) : (register.setStatus key next).Keeps event := by
  obtain ⟨stored, member, sameKey, sameDraft⟩ := keeps
  refine ⟨withStatus key next stored, List.mem_map_of_mem member, ?_, ?_⟩
  · rw [key_withStatus, sameKey]
  · rw [← sameDraft]
    unfold withStatus
    split <;> rfl

theorem find?_eq_some_iff (register : Register) (key : EventKey) (event : Event) :
    register.find? key = some event ↔ event ∈ register.events ∧ event.key = key :=
  Keyed.find?_eq_some_iff register.distinct key

theorem map_withStatus_of_ne {events : List Event} {key : EventKey} (next : Status)
    (others : ∀ other ∈ events, other.key ≠ key) : events.map (withStatus key next) = events := by
  have same : ∀ other ∈ events, withStatus key next other = id other :=
    fun other member => if_neg (others other member)
  rw [List.map_congr_left same, List.map_id]

/-- Moving an open event adds that move and no other. -/
theorem moves_setStatus {register : Register} {event : Event} {next : Status}
    (member : event ∈ register.events) (opened : event.status = .opened)
    (moved : next ≠ .opened) :
    (register.setStatus event.key next).moves.Perm ((event.key, next) :: register.moves) := by
  obtain ⟨before, after, split, others⟩ := Keyed.split register.distinct member
  have sameBefore : before.map (withStatus event.key next) = before :=
    map_withStatus_of_ne next fun other present => others other (by simp [present])
  have sameAfter : after.map (withStatus event.key next) = after :=
    map_withStatus_of_ne next fun other present => others other (by simp [present])
  have there : move? (withStatus event.key next event) = some (event.key, next) := by
    simp [move?, withStatus, moved]
  have here : move? event = none := if_pos opened
  simp only [moves, setStatus, split, List.map_append, List.map_cons, sameBefore, sameAfter,
    List.filterMap_append, List.filterMap_cons, there, here]
  exact List.perm_middle

theorem save_cases (register : Register) (event : Event) :
    register.save event = .error (taken event.key) ∨
      ∃ larger, larger.events = register.events ++ [event] ∧
        register.save event = .ok larger := by
  unfold save
  split
  · exact .inl rfl
  · exact .inr ⟨_, rfl, rfl⟩

theorem update_cases (register : Register) (key : EventKey) (expected next : Status) :
    (∃ event ∈ register.events, event.key = key ∧ event.status = .opened ∧
        next ≠ .opened ∧
        register.update key expected next = (.ok true, register.setStatus key next)) ∨
      ((register.update key expected next).1 ≠ .ok true ∧
        (register.update key expected next).2 = register ∧
        (expected = .opened → next ≠ .opened →
          (register.update key expected next).1 = .ok false)) := by
  unfold update
  cases found : register.find? key with
  | none => exact .inr ⟨by simp, rfl, fun _ _ => rfl⟩
  | some event =>
      obtain ⟨member, same⟩ := (find?_eq_some_iff register key event).1 found
      by_cases fits : event.status = expected
      · subst fits
        cases may : event.status.mayBecome next with
        | true =>
            obtain ⟨opened, moved⟩ := (Status.mayBecome_iff _ _).1 may
            refine .inl ⟨event, member, same, opened, ?_, ?_⟩
            · rcases moved with rfl | rfl <;> decide
            · simp [moveTo, may]
        | false =>
            refine .inr ⟨by simp [moveTo, may], by simp [moveTo, may], fun opened moved => ?_⟩
            simp [Status.mayBecome, opened, moved] at may
      · exact .inr ⟨by simp [fits], by simp [fits], fun _ _ => by simp [fits]⟩

end Register

end ClubOffice.Event
