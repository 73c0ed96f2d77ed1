import ClubOffice.Proofs.Event.Calls
import ClubOffice.Proofs.Event.Disturbance
import ClubOffice.Proofs.Plan.Crowd
import Mathlib.Data.List.Chain

/-!
# The lifetime of an event

Calls on events and single requests are made of a disturbed register that was empty at first, in any
number and in any order. Under each key there is nothing at first, then perhaps an event that is
open, and then perhaps the same event held, or the same event cancelled, for good.
-/

namespace ClubOffice.Event

open Audit Plan Crowd Relation

/-- Carries out calls on events, and asks single requests of the register. -/
def attend : Service (calls.plus registry) (registry.plus ambient)
  | .inl call => carryOut call
  | .inr request => .ask (.inl request) .done

/-- Calls and single requests under way. -/
abbrev Business := Crowd (calls.plus registry) (registry.plus ambient) Register

/-- Moments in their order while the given calls and requests are made of an empty register, each
with its exchanges between those of the others. -/
def Moments (made : List (calls.plus registry).Request) (moments : List Business) : Prop :=
  (Crowd.start attend made .empty :: moments).IsChain
    (ReflTransGen (Step unsteady fun _ _ => False))

/-- What is found under a key as time goes on: nothing at first, then an event as long as it is
open, and from then on the same event with another status. -/
inductive Life (key : EventKey) : List (Option Event) → Prop
  | intro (absent opened closed : Nat) (event : Event) (final : Status) (own : event.key = key)
      (closing : final ≠ .opened) :
      Life key (List.replicate absent none ++
        (List.replicate opened (some { event with status := .opened }) ++
          List.replicate closed (some { event with status := final })))

section Histories

variable {key : EventKey} {event : Event} {history : List (Option Event)}

/-- Whether an event that is found at first is found later on, as it can stand then. -/
def Stays (found later : Option Event) : Prop :=
  ∀ event, found = some event → ∃ kept, later = some kept ∧ event.Becomes kept

theorem closed_of_chain (closed : event.status ≠ .opened)
    (chain : (some event :: history).IsChain Stays) :
    history = List.replicate history.length (some event) := by
  induction history with
  | nil => rfl
  | cons found history ih =>
      obtain ⟨stays, chain⟩ := List.isChain_cons_cons.1 chain
      obtain ⟨kept, rfl, becomes⟩ := stays event rfl
      rw [becomes.eq_of_closed closed] at chain ⊢
      exact congrArg (some event :: ·) (ih chain)

theorem split_of_chain (chain : (some event :: history).IsChain Stays) :
    ∃ still closed final, final ≠ .opened ∧
      history = List.replicate still (some event) ++
        List.replicate closed (some { event with status := final }) := by
  induction history with
  | nil => exact ⟨0, 0, .held, by decide, rfl⟩
  | cons found history ih =>
      obtain ⟨stays, chain⟩ := List.isChain_cons_cons.1 chain
      obtain ⟨kept, rfl, same | ⟨_, final, closing, rfl⟩⟩ := stays event rfl
      · rw [same] at chain ⊢
        obtain ⟨still, closed, final, closing, rfl⟩ := ih chain
        exact ⟨still + 1, closed, final, closing, rfl⟩
      · have rest := closed_of_chain closing chain
        refine ⟨0, history.length + 1, final, closing, ?_⟩
        exact congrArg (_ :: ·) rest

/-- An event that stays from one moment to the next, if there is one, has a life. -/
theorem life_of_chain (chain : history.IsChain Stays)
    (own : ∀ event, some event ∈ history → event.key = key) : Life key history := by
  induction history with
  | nil => exact .intro 0 0 0 ⟨key, ⟨""⟩, .epoch, .epoch, .opened⟩ .held rfl (by decide)
  | cons found history ih =>
      cases found with
      | none =>
          have rest := ih chain.tail fun event member => own event (List.mem_cons_of_mem _ member)
          obtain ⟨absent, opened, closed, event, final, same, closing⟩ := rest
          exact .intro (absent + 1) opened closed event final same closing
      | some event =>
          -- From here on the event itself says what follows, so the induction is not used.
          have same : event.key = key := own event List.mem_cons_self
          by_cases standing : event.status = .opened
          · obtain ⟨still, closed, final, closing, rest⟩ := split_of_chain chain
            have life := Life.intro 0 (still + 1) closed event final same closing
            have whole : ({ event with status := .opened } : Event) = event := by rw [← standing]
            rw [whole] at life
            rw [rest]
            exact life
          · rw [closed_of_chain standing chain]
            exact .intro 0 0 (history.length + 1) event event.status same standing

end Histories

section Runs

variable {made : List (calls.plus registry).Request} {moments : List Business}
variable {business later : Business}

theorem becomes_of_steps
    (steps : ReflTransGen (Step unsteady fun _ _ => False) business later) :
    business.state.Becomes later.state := by
  induction steps with
  | refl => exact .refl _
  | tail _ step ih =>
      cases step with
      | drift _ _ _ drifted => exact drifted.elim
      | exchange _ _ _ _ request _ _ _ reply replied =>
          exact ih.trans (Register.becomes_of_changes (changes_unsteady _ _ _ _ replied))

/-- Only what was planned is saved by a call, and a single request saves what it was given. -/
theorem saved_of_course {call : (calls.plus registry).Request}
    {asked : List (Exchange (registry.plus ambient))}
    {rest : Plan (registry.plus ambient) ((calls.plus registry).Reply call)}
    (course : Course (attend call) asked rest)
    (given : ∀ event, call = .inr (.save event) → event.Sound) :
    ∀ exchange ∈ asked, ∀ event, exchange.1 = .inl (.save event) → event.Sound := by
  rcases call with call | request
  · rintro ⟨_, reply⟩ member event rfl
    have among : (⟨.save event, reply⟩ : Exchange registry) ∈ told asked :=
      List.mem_filterMap.2 ⟨_, member, rfl⟩
    obtain ⟨key, draft, made⟩ := savesPlanned_of_course course _ among event rfl
    exact sound_restore made
  · rcases course_ask_iff.1 course with ⟨rfl, _⟩ | ⟨reply, last, rfl, onward⟩
    · exact List.forall_mem_nil _
    · obtain ⟨rfl, _⟩ := course_done_iff.1 onward
      refine List.forall_mem_singleton.2 fun event same => ?_
      exact given event (congrArg Sum.inr (Sum.inl.inj same))

/-- Every event of the register is sound if the events that were to be saved had been restored. -/
theorem sound_of_reachable
    (given : ∀ event, .inr (.save event) ∈ made → event.Sound)
    (reachable : Crowd.Reachable attend unsteady (fun _ _ => False) made .empty business) :
    business.state.Sound := by
  induction reachable with
  | refl => exact Register.sound_empty
  | tail reachable step ih =>
      have next : Crowd.Reachable attend unsteady (fun _ _ => False) made .empty _ :=
        reachable.tail step
      cases step with
      | drift _ _ _ drifted => exact drifted.elim
      | exchange before after call asked request onward register register' reply replied =>
          have same := (exchanges_perm before after call asked ⟨request, reply⟩
            (.ask request onward) (onward reply) register register').symm
          have saved : ∀ event, request = .inl (.save event) → event.Sound :=
            next.forall_exchange
              (fun call among asked rest course =>
                saved_of_course course fun event same => given event (same ▸ among))
              _ (same.subset List.mem_cons_self)
          rcases request with request | request
          · exact Disturbed.sound replied ih fun event same => saved event (congrArg Sum.inl same)
          · have unchanged : register' = register := replied
            rw [unchanged]
            exact ih

theorem Moments.reachable (run : Moments made moments) (member : business ∈ moments) :
    Crowd.Reachable attend unsteady (fun _ _ => False) made .empty business :=
  List.rel_of_pairwise_cons (List.isChain_iff_pairwise.1 run) member

/-- Whatever calls and requests are made of a register, and whichever of them fail or come too late:
under each key there is one event at most, which stays as it was planned and is closed at most once;
every event is sound; and neither a second save nor an update that is not answered with yes changes
anything. -/
theorem each_event_lives_once
    (restored : ∀ event, .inr (.save event) ∈ made →
      ∃ key draft status, restore key draft status = .ok event)
    (run : Moments made moments) :
    (∀ key, Life key (moments.map fun moment => moment.state.find? key)) ∧
      ∀ moment ∈ moments,
        (∀ event ∈ moment.state.events, event.Sound) ∧
          (∀ event reply after, moment.state.find? event.key ≠ none →
            Disturbed (.save event) moment.state reply after → after = moment.state) ∧
          (∀ key expected next reply after, reply ≠ .ok true →
            Disturbed (.update key expected next) moment.state reply after →
              after = moment.state) := by
  refine ⟨fun key => ?_, fun moment member => ⟨?_, ?_, ?_⟩⟩
  · refine life_of_chain ?_ ?_
    · rw [List.isChain_map]
      refine run.tail.imp fun before later steps event found => ?_
      exact becomes_of_steps steps key event found
    · intro event member
      obtain ⟨moment, _, found⟩ := List.mem_map.1 member
      exact ((Register.find?_eq_some_iff _ _ _).1 found).2
  · refine sound_of_reachable (fun event among => ?_) (run.reachable member)
    obtain ⟨key, draft, status, done⟩ := restored event among
    exact sound_restore done
  · intro event reply after taken disturbed
    rcases disturbed.save_cases with ⟨_, _, unchanged⟩ | ⟨_, fresh, _⟩
    · exact unchanged
    · exact absurd ((Register.find?_eq_none_iff _ _).2 fresh) taken
  · intro key expected next reply after refused disturbed
    exact disturbed.unchanged_update refused

end Runs

theorem unsteady_steady (uuid : Uuid) (now : Time.Instant)
    (request : (registry.plus ambient).Request) (register : Register) :
    unsteady request register (steady uuid now request register).1
      (steady uuid now request register).2 := by
  rcases request with request | _ | _ | record
  · exact .calm request register
  · exact rfl
  · exact rfl
  · exact rfl

def regatta : Event := ⟨⟨.ofNat 7⟩, ⟨"Regatta"⟩, .epoch, .epoch, .opened⟩

def regattaRequests : List (calls.plus registry).Request :=
  [.inr (.save regatta), .inl (.cancel regatta.key .outside),
    .inr (.update regatta.key .opened .held), .inr (.save regatta)]

/-- A cancellation reads an open event, which is held and then saved again before it can be
cancelled. -/
def regattaMoments : List Business :=
  let serve := steady (.ofNat 0) .epoch
  let saved := (Crowd.start attend regattaRequests .empty).turns serve [0]
  let read := saved.turns serve [1, 1, 1, 1]
  let held := read.turns serve [2]
  [saved, read, held, held.turns serve [3, 1, 1, 1]]

theorem regatta_moments : Moments regattaRequests regattaMoments := by
  have steps (business : Business) (schedule : List Nat) :
      ReflTransGen (Step unsteady fun _ _ => False) business
        (business.turns (steady (.ofNat 0) .epoch) schedule) :=
    turns_steps (unsteady_steady _ _) business schedule
  exact .cons_cons (steps _ _) (.cons_cons (steps _ _) (.cons_cons (steps _ _)
    (.cons_cons (steps _ _) (.singleton _))))

theorem regatta_lives_once :
    (regattaMoments.map fun moment => moment.state.find? regatta.key) =
        [some regatta, some regatta, some { regatta with status := .held },
          some { regatta with status := .held }] ∧
      Life regatta.key (regattaMoments.map fun moment => moment.state.find? regatta.key) ∧
      ∀ moment ∈ regattaMoments, ∀ event ∈ moment.state.events, event.Sound := by
  have restored : ∀ event, .inr (.save event) ∈ regattaRequests →
      ∃ key draft status, restore key draft status = .ok event := by
    intro event among
    simp only [regattaRequests, List.mem_cons, List.not_mem_nil, reduceCtorEq, Sum.inr.injEq,
      Registry.Request.save.injEq, or_false, false_or, or_self] at among
    subst among
    exact ⟨regatta.key, regatta.draft, .opened, by decide⟩
  have lives := each_event_lives_once restored regatta_moments
  exact ⟨by decide, lives.1 regatta.key, fun moment member => (lives.2 moment member).1⟩

end ClubOffice.Event
