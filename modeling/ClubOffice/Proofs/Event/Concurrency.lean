import ClubOffice.Proofs.Event.Calls
import ClubOffice.Proofs.Plan.Crowd
import Mathlib.Algebra.Order.BigOperators.Group.List
import Mathlib.Algebra.Order.Ring.Nat

/-!
# Calls on events side by side

Creations, cancellations and closings of events are under way at once, over a register that was
empty at first, and their requests reach it in any order. However stale what a call has read may be,
each event is moved by at most one of them, and what the closings count is what was held.
-/

namespace ClubOffice.Event

open Audit Plan Crowd Time

abbrev Running := Strand calls (registry.plus ambient)

/-- The register serves its requests, and the surroundings reply with anything. -/
def manner : Manner (registry.plus ambient) Register
  | .inl request, register, reply, after => Register.serve request register = (reply, after)
  | .inr _, register, _, after => after = register

/-- The calls under way over an empty register. -/
abbrev Reachable (made : List Call) (crowd : Crowd calls (registry.plus ambient) Register) : Prop :=
  Crowd.Reachable carryOut manner (fun _ _ => False) made .empty crowd

namespace Running

def moves (running : Running) : List Move := Registry.moves (told running.asked)

def endsWell {α β : Type} {P : Interface} : Plan P (Exit α × β) → Bool
  | .done (.value _, _) => true
  | _ => false

/-- Whether the call is a cancellation of the event of a key that ended well or whose update was
answered with yes. -/
def cancels (key : EventKey) : Running → Bool
  | ⟨.cancel other _, asked, rest⟩ =>
      other = key && (endsWell rest || (key, .cancelled) ∈ Registry.moves (told asked))
  | _ => false

/-- Whether the call is a closing whose update of the event of a key was answered with yes. -/
def holds (key : EventKey) : Running → Bool
  | ⟨.close, asked, _⟩ => (key, .held) ∈ Registry.moves (told asked)
  | _ => false

def Created (event : Event) : Running → Prop
  | ⟨.create _ _, _, .done (.value created, _)⟩ => created = event
  | _ => False

def counted? : Running → Option Nat
  | ⟨.close, _, .done (.ok count)⟩ => some count
  | _ => none

end Running

variable {made : List Call} {crowd : Crowd calls (registry.plus ambient) Register}

theorem Reachable.accounts (reachable : Reachable made crowd) :
    crowd.state.Accounts (told crowd.exchanges) := by
  induction reachable with
  | refl =>
      rw [exchanges_start]
      exact Register.accounts_empty
  | tail reachable step ih =>
      have next : Reachable made _ := reachable.tail step
      cases step with
      | drift _ _ _ drifted => exact drifted.elim
      | exchange before after call asked request later register register' reply replied =>
          have same := (exchanges_perm before after call asked ⟨request, reply⟩
            (.ask request later) (later reply) register register').symm.filterMap Exchange.left?
          -- The new exchange stands among those of its call, but the order does not matter.
          refine Register.Accounts.perm ?_ same
          rcases request with request | request
          · have opened : SavesOpened (told (asked ++ [⟨.inl request, reply⟩])) :=
              savesOpened_of_course (next.course (List.mem_append_right _ List.mem_cons_self))
            have served : Register.serve request register = (reply, register') := replied
            have asked : (⟨request, reply⟩ : Exchange registry) ∈
                told (asked ++ [⟨.inl request, reply⟩]) :=
              List.mem_filterMap.2
                ⟨⟨.inl request, reply⟩, List.mem_append_right _ (List.mem_singleton_self _), rfl⟩
            have kept := ih.serve request (opened ⟨request, reply⟩ asked)
            rw [served] at kept
            exact kept
          · have unchanged : register' = register := replied
            rw [unchanged]
            exact ih

theorem Running.holds_iff {running : Running} (key : EventKey)
    (course : Course (carryOut running.call) running.asked running.rest) :
    Running.holds key running = true ↔ (key, .held) ∈ Running.moves running := by
  obtain ⟨call, asked, rest⟩ := running
  cases call with
  | create draft slot =>
      have unmoved : Running.moves ⟨.create draft slot, asked, rest⟩ = [] :=
        (course_create course).2.1
      simp [unmoved, Running.holds]
  | cancel other slot =>
      have run := (course_cancel course).2
      simp only [Running.moves, Running.holds]
      rcases run with ⟨unmoved, _⟩ | ⟨moved, _⟩
      · simp [unmoved]
      · simp [moved]
  | close => simp [Running.moves, Running.holds]

theorem mem_told {running : Running} (present : running ∈ crowd.strands)
    {exchange : Exchange registry} (among : exchange ∈ told running.asked) :
    exchange ∈ told crowd.exchanges := by
  obtain ⟨asked, was, same⟩ := List.mem_filterMap.1 among
  exact List.mem_filterMap.2 ⟨asked, mem_exchanges.2 ⟨running, present, was⟩, same⟩

/-- An event that a closing moved to held had ended by the time that the closing read first. -/
theorem Reachable.elapsed (reachable : Reachable made crowd) {event : Event}
    (member : event ∈ crowd.state.events) {running : Running} (present : running ∈ crowd.strands)
    (holds : Running.holds event.key running = true) :
    ∃ now, running.asked.head? = some ⟨.inr .now, now⟩ ∧ event.endsAt ≤ now := by
  have course := Crowd.Reachable.course reachable present
  have moved := (Running.holds_iff event.key course).1 holds
  obtain ⟨call, asked, rest⟩ := running
  cases call with
  | create draft slot => cases holds
  | cancel key slot => cases holds
  | close =>
      obtain ⟨now, candidates, listed, began, due, candidate, ended, same⟩ :=
        (course_close course).2.1 _ moved
      obtain ⟨stored, kept, sameKey, sameDraft⟩ :=
        reachable.accounts.listed now candidates (mem_told present due) listed candidate
      have keys : stored.key = event.key := sameKey.trans (congrArg Prod.fst same).symm
      have there : stored = event := Keyed.eq_of_key crowd.state.distinct kept member keys
      have ends : event.endsAt = listed.endsAt := by
        rw [← there]
        exact congrArg Draft.endsAt sameDraft
      exact ⟨now, began, ends ▸ ended⟩

theorem Reachable.created (reachable : Reachable made crowd) {running : Running}
    (present : running ∈ crowd.strands) {event : Event} (created : Running.Created event running) :
    crowd.state.Keeps event := by
  have course := Crowd.Reachable.course reachable present
  obtain ⟨call, asked, rest⟩ := running
  unfold Running.Created at created
  split at created
  · rename_i draft slot asked result final same
    cases same
    cases created
    have saved := (course_create course).2.2 event final rfl
    exact reachable.accounts.saved event (mem_told present saved)
  · exact created.elim

theorem Reachable.counted (reachable : Reachable made crowd) {running : Running}
    (present : running ∈ crowd.strands) (done : running.isDone = true)
    (closing : running.call = .close) :
    running.counted? = some (Running.moves running).length := by
  have course := Crowd.Reachable.course reachable present
  obtain ⟨call, asked, rest⟩ := running
  subst closing
  cases rest with
  | ask request next => cases done
  | done result =>
      rcases (course_close course).2.2 result rfl with ended | ⟨exchange, among, fails⟩
      · rcases result with fault | count
        · cases ended
        · exact congrArg some (Except.ok.inj ended)
      · exact absurd fails (reachable.accounts.calm exchange (mem_told present among))

end ClubOffice.Event
