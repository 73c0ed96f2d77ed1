import ClubOffice.Proofs.Event.Move

/-!
# Accounts of a register

What was exchanged with a register that was empty at first accounts for all that it holds: which
events were saved, and which moves they made. This is so whoever asked, and in whatever order.
-/

namespace ClubOffice.Event

open Time

/-- The move that an exchange tells of: an update that was answered with yes. -/
def Registry.move? : Exchange registry → Option Move
  | ⟨.update key _ next, .ok true⟩ => some (key, next)
  | _ => none

def Registry.moves (told : List (Exchange registry)) : List Move := told.filterMap move?

/-- Whether an exchange could only fail if the register did: a list of due events, or a closing. -/
def Registry.Fails : Exchange registry → Prop
  | ⟨.due _, .error _⟩ => True
  | ⟨.update _ .opened .held, .error _⟩ => True
  | _ => False

open Registry

/-- What was exchanged accounts for the register: for its moves, and for the events it holds. Events
that were listed as due are held, and nothing failed. -/
structure Register.Accounts (register : Register) (told : List (Exchange registry)) : Prop where
  moved : (Registry.moves told).Perm register.moves
  saved : ∀ event, ⟨.save event, .ok ()⟩ ∈ told → register.Keeps event
  listed : ∀ now candidates, ⟨.due now, .ok candidates⟩ ∈ told →
    ∀ event ∈ candidates, register.Keeps event
  calm : ∀ exchange ∈ told, ¬ Fails exchange

namespace Register

variable {register : Register} {told told' : List (Exchange registry)}

theorem accounts_empty : empty.Accounts [] :=
  ⟨.refl _, by simp, by simp, by simp⟩

theorem Accounts.perm (accounts : register.Accounts told) (same : told.Perm told') :
    register.Accounts told' where
  moved := (same.symm.filterMap _).trans accounts.moved
  saved event member := accounts.saved event (same.mem_iff.2 member)
  listed now candidates member := accounts.listed now candidates (same.mem_iff.2 member)
  calm exchange member := accounts.calm exchange (same.mem_iff.2 member)

theorem Accounts.cons (accounts : register.Accounts told) {exchange : Exchange registry}
    (unmoved : Registry.move? exchange = none)
    (unsaved : ∀ event, exchange ≠ ⟨.save event, .ok ()⟩)
    (listed : ∀ now candidates, exchange = ⟨.due now, .ok candidates⟩ →
      ∀ event ∈ candidates, register.Keeps event)
    (calm : ¬ Fails exchange) : register.Accounts (exchange :: told) where
  moved := by
    rw [Registry.moves, List.filterMap_cons_none unmoved]
    exact accounts.moved
  saved event member := by
    rcases List.mem_cons.1 member with same | earlier
    · exact absurd same.symm (unsaved event)
    · exact accounts.saved event earlier
  listed now candidates member := by
    rcases List.mem_cons.1 member with same | earlier
    · exact listed now candidates same.symm
    · exact accounts.listed now candidates earlier
  calm := List.forall_mem_cons.2 ⟨calm, accounts.calm⟩

theorem Accounts.save (accounts : register.Accounts told) {event : Event}
    (opened : event.status = .opened) :
    (serve (.save event) register).2.Accounts
      (⟨.save event, (serve (.save event) register).1⟩ :: told) := by
  rcases save_cases register event with refused | ⟨larger, events, done⟩
  · simp only [serve, refused]
    refine accounts.cons rfl (fun other same => ?_) (fun now candidates same => ?_) id
    · cases same
    · cases same
  · simp only [serve, done]
    have keeps (other : Event) : register.Keeps other → larger.Keeps other := by
      rintro ⟨stored, member, same⟩
      exact ⟨stored, by simp [events, member], same⟩
    refine ⟨?_, ?_, ?_, ?_⟩
    · have same : larger.moves = register.moves := by
        simp [moves, events, Event.move?, opened]
      rw [same]
      exact accounts.moved
    · intro other member
      rcases List.mem_cons.1 member with same | earlier
      · cases same
        exact ⟨event, by simp [events], rfl, rfl⟩
      · exact keeps other (accounts.saved other earlier)
    · intro now candidates member other listed
      rcases List.mem_cons.1 member with same | earlier
      · cases same
      · exact keeps other (accounts.listed now candidates earlier other listed)
    · exact List.forall_mem_cons.2 ⟨id, accounts.calm⟩

theorem Accounts.update (accounts : register.Accounts told) (key : EventKey)
    (expected next : Status) :
    (serve (.update key expected next) register).2.Accounts
      (⟨.update key expected next, (serve (.update key expected next) register).1⟩ :: told) := by
  rcases update_cases register key expected next with
    ⟨event, member, rfl, opened, moved, done⟩ | ⟨refused, unchanged, fair⟩
  · simp only [serve, done]
    refine ⟨?_, ?_, ?_, ?_⟩
    · exact (accounts.moved.cons _).trans (moves_setStatus member opened moved).symm
    · intro other present
      rcases List.mem_cons.1 present with same | earlier
      · cases same
      · exact (accounts.saved other earlier).setStatus event.key next
    · intro now candidates present other listed
      rcases List.mem_cons.1 present with same | earlier
      · cases same
      · exact (accounts.listed now candidates earlier other listed).setStatus event.key next
    · refine List.forall_mem_cons.2 ⟨?_, accounts.calm⟩
      cases expected <;> cases next <;> exact id
  · simp only [serve]
    rw [unchanged]
    generalize (register.update key expected next).1 = reply at refused fair
    refine accounts.cons ?_ (fun other same => ?_) (fun now candidates same => ?_) ?_
    · rcases reply with fault | _ | _
      · rfl
      · rfl
      · exact absurd rfl refused
    · cases same
    · cases same
    · intro fails
      rcases reply with fault | answer
      · cases expected <;> cases next <;> first | exact fails | cases fair rfl (by decide)
      · cases expected <;> cases next <;> exact fails

/-- A register that serves a request keeps its accounts, if only open events are saved. -/
theorem Accounts.serve (accounts : register.Accounts told) (request : registry.Request)
    (opened : ∀ event, request = .save event → event.status = .opened) :
    (Register.serve request register).2.Accounts
      (⟨request, (Register.serve request register).1⟩ :: told) := by
  cases request with
  | save event => exact accounts.save (opened event rfl)
  | find key =>
      refine accounts.cons rfl (fun other same => ?_) (fun now candidates same => ?_) id
      · cases same
      · cases same
  | due now =>
      refine accounts.cons rfl (fun other same => ?_) (fun now' candidates same => ?_) id
      · cases same
      · cases same
        intro event member
        exact ⟨event, ((mem_due register now event).1 member).1, rfl, rfl⟩
  | update key expected next => exact accounts.update key expected next

end Register

end ClubOffice.Event
