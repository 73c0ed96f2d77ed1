import ClubOffice.Proofs.Event.Calls
import ClubOffice.Proofs.Event.Disturbance

/-!
# What a closing counts

A closing goes through a list that it read once. The list may name anything: events that stand
differently by now, events that are not due, the same event twice, events that the register never
had; and others may change the register before each of the updates. The closing still asks for
exactly what is due on its list, leaves alone what is not open when its turn comes, and counts what
it held itself, each event once.
-/

namespace ClubOffice.Event

open Audit Plan Relation Time

/-- What can come of a request to a register that may list anything when it is asked what is due,
or fail to, and that serves every other request. -/
inductive Misled : Manner registry Register
  | calm (request : registry.Request) (register : Register) :
      Misled request register (Register.serve request register).1
        (Register.serve request register).2
  | lists (now : Instant) (register : Register) (reply : Except Fault (List Event)) :
      Misled (.due now) register reply register

/-- What can come of a request to such a register or to the surroundings, which reply with
anything. -/
def misleading : Manner (registry.plus ambient) Register
  | .inl request, register, reply, after => Misled request register reply after
  | .inr _, register, _, after => after = register

/-- The request of a closing for one event. -/
def holding (event : Event) : (registry.plus ambient).Request :=
  .inl (.update event.key .opened .held)

/-- Whether a passage takes the event of a key from open to held. -/
def Holds {P : Interface} (key : EventKey) (passage : Passage P Register) : Prop :=
  (passage.before.find? key).map (·.status) = some .opened ∧
    (passage.after.find? key).map (·.status) = some .held

/-- What a closing does that was given a list. -/
structure ClosesListed (now : Instant) (listed : List Event)
    (passed : List (Passage (registry.plus ambient) Register)) (result : Except Fault Nat) :
    Prop where
  asked : passed.map (·.exchange.1) = .inr .now :: .inl (.due now) ::
    (listed.filter fun event => event.status = .opened ∧ event.endsAt ≤ now).map holding
  answered : ∀ passage ∈ passed, ∀ key fault,
    passage.exchange ≠ ⟨.inl (.update key .opened .held), .error fault⟩
  changed : ∀ passage ∈ passed, ∀ key,
    passage.after.find? key = passage.before.find? key ∨
      ∃ event, passage.before.find? key = some event ∧ event.status = .opened ∧
        passage.after.find? key = some { event with status := .held }
  counted : ∃ keys : List EventKey, keys.Nodup ∧
    (∀ key, key ∈ keys ↔ ∃ passage ∈ passed, Holds key passage) ∧ result = .ok keys.length

/-- The key of the event that a passage holds, by what was exchanged. -/
def heldKey? (passage : Passage (registry.plus ambient) Register) : Option EventKey :=
  (passage.exchange.left?.bind Registry.move?).map (·.1)

variable {register before after final : Register} {result : Except Fault Nat}
variable {passed : List (Passage (registry.plus ambient) Register)}

theorem Misled.disturbed {request : registry.Request} {reply : registry.Reply request}
    (misled : Misled request before reply after) : Disturbed request before reply after := by
  cases misled with
  | calm => exact .calm _ _
  | lists now _ reply =>
      cases reply with
      | error fault => exact .fails (.due now) before fault
      | ok listed => exact .lists now before listed

theorem unsteady_of_misleading (request : (registry.plus ambient).Request) (before : Register)
    (reply : (registry.plus ambient).Reply request) (after : Register)
    (replied : misleading request before reply after) : unsteady request before reply after := by
  cases request with
  | inl request => exact Misled.disturbed replied
  | inr request => exact replied

/-- An update from open to held holds the event of its key if that is open, and else does nothing
and says so. -/
theorem Misled.hold_cases {key : EventKey} {reply : Except Fault Bool}
    (misled : Misled (.update key .opened .held) before reply after) :
    (reply = .ok false ∧ after = before) ∨
      (reply = .ok true ∧ after = before.setStatus key .held ∧
        ∃ event, before.find? key = some event ∧ event.status = .opened) := by
  cases misled with
  | calm =>
      rcases Register.update_cases before key .opened .held with
        ⟨event, member, same, opened, _, done⟩ | ⟨_, unchanged, fair⟩
      · right
        have found := (Register.find?_eq_some_iff before key event).2 ⟨member, same⟩
        exact ⟨congrArg Prod.fst done, congrArg Prod.snd done, event, found, opened⟩
      · left
        exact ⟨fair rfl (by decide), unchanged⟩

theorem Misled.unchanged_due {now : Instant} {reply : Except Fault (List Event)}
    (misled : Misled (.due now) before reply after) : after = before := by
  cases misled with
  | calm => rfl
  | lists => rfl

/-- If no update fails, each of the events is asked for, in their order, and the moves are
counted. -/
theorem course_holdEach_of_answered {events : List Event} {held : Nat}
    {asked : List (Exchange (registry.plus ambient))}
    (course : Course (holdEach events held) asked (.done result))
    (answered : ∀ exchange ∈ asked, ∀ key fault,
      exchange ≠ ⟨.inl (.update key .opened .held), .error fault⟩) :
    asked.map (·.1) = events.map holding ∧
      result = .ok (held + (Registry.moves (told asked)).length) := by
  induction events generalizing held asked with
  | nil =>
      obtain ⟨rfl, ended⟩ := course_done_iff.1 course
      cases ended
      exact ⟨rfl, rfl⟩
  | cons event events ih =>
      obtain ⟨reply, later, rfl, onward⟩ := course.of_ask_done
      obtain ⟨first, others⟩ := List.forall_mem_cons.1 answered
      rcases reply with fault | _ | _
      · exact absurd rfl (first event.key fault)
      · obtain ⟨requests, counted⟩ := ih onward others
        exact ⟨congrArg (holding event :: ·) requests, counted⟩
      · obtain ⟨requests, counted⟩ := ih onward others
        refine ⟨congrArg (holding event :: ·) requests, counted.trans (congrArg Except.ok ?_)⟩
        exact (Nat.add_assoc held 1 _).trans (congrArg (held + ·) (Nat.add_comm 1 _))

theorem filterMap_heldKey? (passed : List (Passage (registry.plus ambient) Register)) :
    passed.filterMap heldKey? =
      (Registry.moves (told (passed.map (·.exchange)))).map (·.1) := by
  rw [Registry.moves, List.filterMap_filterMap, List.filterMap_map, List.map_filterMap]
  rfl

section Passages

variable {passage : Passage (registry.plus ambient) Register} {now : Instant} {events : List Event}
variable (replied : misleading passage.exchange.1 passage.before passage.exchange.2 passage.after)
variable (asked : passage.exchange.1 ∈ .inr .now :: .inl (.due now) :: events.map holding)

include replied in
theorem not_fails_hold (key : EventKey) (fault : Fault) :
    passage.exchange ≠ ⟨.inl (.update key .opened .held), .error fault⟩ := by
  obtain ⟨before, exchange, after⟩ := passage
  intro same
  subst same
  rcases Misled.hold_cases replied with ⟨done, _⟩ | ⟨done, _⟩
  · cases done
  · cases done

include replied asked

/-- An exchange of a closing holds an open event and tells its key, or it leaves the register as it
was and tells nothing. -/
theorem heldKey?_cases :
    (heldKey? passage = none ∧ passage.after = passage.before) ∨
      ∃ event, heldKey? passage = some event.key ∧
        passage.before.find? event.key = some event ∧ event.status = .opened ∧
        passage.after = passage.before.setStatus event.key .held := by
  obtain ⟨before, ⟨request, reply⟩, after⟩ := passage
  simp only [List.mem_cons, List.mem_map] at asked
  rcases asked with rfl | rfl | ⟨named, _, rfl⟩
  · exact .inl ⟨rfl, replied⟩
  · exact .inl ⟨rfl, Misled.unchanged_due replied⟩
  · rcases Misled.hold_cases replied with ⟨rfl, unchanged⟩ | ⟨rfl, held, event, found, opened⟩
    · exact .inl ⟨rfl, unchanged⟩
    · have same : event.key = named.key := ((Register.find?_eq_some_iff _ _ _).1 found).2
      rw [← same] at found held
      exact .inr ⟨event, congrArg some same.symm, found, opened, held⟩

/-- Of the event of each key: it is held and its key is told, or it is left as it was. -/
theorem find?_of_passage (key : EventKey) :
    (heldKey? passage ≠ some key ∧ passage.after.find? key = passage.before.find? key) ∨
      (heldKey? passage = some key ∧ ∃ event, passage.before.find? key = some event ∧
        event.status = .opened ∧
        passage.after.find? key = some { event with status := .held }) := by
  rcases heldKey?_cases replied asked with ⟨untold, unchanged⟩ | ⟨event, told, found, opened, held⟩
  · left
    rw [untold, unchanged]
    exact ⟨Option.some_ne_none key ∘ Eq.symm, rfl⟩
  · by_cases same : key = event.key
    · subst same
      have moved : Register.withStatus event.key .held event = { event with status := .held } :=
        if_pos rfl
      refine .inr ⟨told, event, found, opened, ?_⟩
      rw [held, Register.find?_setStatus, found, Option.map_some, moved]
    · left
      rw [told, held, Register.find?_setStatus_of_ne _ same]
      exact ⟨fun told => same (Option.some.inj told).symm, rfl⟩

theorem holds_iff (key : EventKey) : Holds key passage ↔ heldKey? passage = some key := by
  rcases find?_of_passage replied asked key with ⟨untold, same⟩ | ⟨told, event, found, opened, held⟩
  · refine iff_of_false ?_ untold
    rintro ⟨before, after⟩
    rw [same, before] at after
    cases after
  · refine iff_of_true ⟨?_, ?_⟩ told
    · rw [found, Option.map_some, opened]
    · rw [held, Option.map_some]

end Passages

section Walks

variable {now : Instant} {listed : List Event}
variable {later : List (Exchange (registry.plus ambient))}

/-- An event that a closing held stays held, so that no later passage holds it again. -/
theorem nodup_heldKeys {events : List Event}
    (walk : Walk misleading Register.Changes closeElapsed register passed result final)
    (asked : ∀ passage ∈ passed,
      passage.exchange.1 ∈ .inr .now :: .inl (.due now) :: events.map holding) :
    (passed.filterMap heldKey?).Nodup := by
  have ordered := walk.pairwise_leads (fun _ _ drifted => drifted) fun request before reply after
    replied => changes_unsteady request before reply after
      (unsteady_of_misleading request before reply after replied)
  have apart : passed.Pairwise fun passage next =>
      ∀ key, heldKey? passage = some key → heldKey? next ≠ some key := by
    refine ordered.imp_of_mem fun {passage next} member member' leads key told again => ?_
    have first := find?_of_passage (walk.replied passage member) (asked passage member) key
    have second := find?_of_passage (walk.replied next member') (asked next member') key
    rcases first with ⟨untold, _⟩ | ⟨_, event, _, _, held⟩
    · exact untold told
    rcases second with ⟨untold, _⟩ | ⟨_, other, found, opened, _⟩
    · exact untold again
    -- Nobody opens an event that is held, so the later passage does not find it open.
    have stays := Register.stays_closed held Status.noConfusion leads
    rw [found] at stays
    cases stays
    cases opened
  refine List.Pairwise.filterMap heldKey? ?_ apart
  intro passage next differ key told key' told' same
  subst same
  exact differ key told told'

/-- A closing that was given a list goes through what is due on it and counts what it holds. -/
theorem closesListed_of_walk
    (walk : Walk misleading Register.Changes closeElapsed register passed result final)
    (began : passed.map (·.exchange) = ⟨.inr .now, now⟩ :: ⟨.inl (.due now), .ok listed⟩ :: later)
    (onward : Course (holdEach (listed.filter (·.isDue now)) 0) later (.done result)) :
    ClosesListed now listed passed result := by
  have answered : ∀ passage ∈ passed, ∀ key fault,
      passage.exchange ≠ ⟨.inl (.update key .opened .held), .error fault⟩ :=
    fun passage member => not_fails_hold (walk.replied passage member)
  obtain ⟨requests, counted⟩ := course_holdEach_of_answered onward fun exchange member => by
    have among : exchange ∈ passed.map (·.exchange) := by simp [began, member]
    obtain ⟨passage, present, rfl⟩ := List.mem_map.1 among
    exact answered passage present
  have due : (fun event : Event => event.isDue now) =
      fun event => decide (event.status = .opened ∧ event.endsAt ≤ now) :=
    funext fun event => isDue_eq_decide event now
  have asked : passed.map (·.exchange.1) =
      .inr .now :: .inl (.due now) :: (listed.filter (·.isDue now)).map holding := by
    have same := congrArg (List.map (·.1)) began
    rw [List.map_map, List.map_cons, List.map_cons, requests] at same
    exact same
  have among : ∀ passage ∈ passed, passage.exchange.1 ∈
      .inr .now :: .inl (.due now) :: (listed.filter (·.isDue now)).map holding :=
    fun passage member => asked ▸ List.mem_map_of_mem member
  refine ⟨due ▸ asked, answered, ?changed, passed.filterMap heldKey?, nodup_heldKeys walk among,
    ?members, ?count⟩
  case changed =>
    intro passage member key
    rcases find?_of_passage (walk.replied passage member) (among passage member) key with
      ⟨_, same⟩ | ⟨_, held⟩
    · exact .inl same
    · exact .inr held
  case members =>
    intro key
    rw [List.mem_filterMap]
    refine exists_congr fun passage => and_congr_right fun member => ?_
    exact (holds_iff (walk.replied passage member) (among passage member) key).symm
  case count =>
    rw [counted, Nat.zero_add, filterMap_heldKey?, List.length_map, began]
    rfl

/-- Whatever a closing is given as a list, and whatever others do to the register meanwhile: it
comes to an end; a list that cannot be had is the only fault that it ends with; and else it goes
through what is due on the list and counts the events that it held itself. -/
theorem closing_counts_what_it_held :
    (∀ {τ : Type} (serve : Server (registry.plus ambient) τ) (view : τ → Register),
      (∀ request state, ∃ between, ReflTransGen Register.Changes (view state) between ∧
        misleading request between (serve request state).1 (view (serve request state).2)) →
      ∀ state, ∃ passed,
        passed.map (·.exchange) = closeElapsed.transcript serve state ∧
          Walk misleading Register.Changes closeElapsed (view state) passed
            (closeElapsed.run serve state).1 (view (closeElapsed.run serve state).2)) ∧
      ∀ {register passed result final},
        Walk misleading Register.Changes closeElapsed register passed result final →
          ∃ now reply later,
            passed.map (·.exchange) = ⟨.inr .now, now⟩ :: ⟨.inl (.due now), reply⟩ :: later ∧
            (∀ fault, reply = .error fault → later = [] ∧ result = .error fault) ∧
            ∀ listed, reply = .ok listed → ClosesListed now listed passed result := by
  constructor
  · intro τ serve view obeys state
    exact Walk.of_run obeys closeElapsed state
  · intro register passed result final walk
    obtain ⟨now, listing, began, lists⟩ := walk.course.of_ask_done
    obtain ⟨reply, later, rfl, onward⟩ := lists.of_ask_done
    refine ⟨now, reply, later, began, ?_, ?_⟩
    · rintro fault rfl
      obtain ⟨rfl, ended⟩ := course_done_iff.1 onward
      cases ended
      exact ⟨rfl, rfl⟩
    · rintro listed rfl
      exact closesListed_of_walk walk began onward

end Walks

/-- The register after the first of the things that others ask, if there is one. -/
def overtake (register : Register) : List Registry.Request → Register
  | [] => register
  | other :: _ => (Register.serve other register).2

theorem changes_overtake (register : Register) (others : List Registry.Request) :
    ReflTransGen Register.Changes register (overtake register others) := by
  cases others with
  | nil => exact .refl
  | cons other others => exact .single ⟨other, rfl⟩

/-- A register that lists what it is told to, and that is asked something by others before each of
its answers, as long as they ask. -/
def crossing (now : Instant) (listed : List Event) :
    Server (registry.plus ambient) (Register × List Registry.Request)
  | .inl (.due _), (register, others) => (.ok listed, overtake register others, others.tail)
  | .inl request, (register, others) =>
      ((Register.serve request (overtake register others)).1,
        (Register.serve request (overtake register others)).2, others.tail)
  | .inr .freshId, (register, others) => (.ofNat 0, overtake register others, others.tail)
  | .inr .now, (register, others) => (now, overtake register others, others.tail)
  | .inr (.write _), (register, others) => (.ok (), overtake register others, others.tail)

theorem misleading_crossing (now : Instant) (listed : List Event)
    (request : (registry.plus ambient).Request) (state : Register × List Registry.Request) :
    ∃ between, ReflTransGen Register.Changes state.1 between ∧
      misleading request between (crossing now listed request state).1
        (crossing now listed request state).2.1 := by
  refine ⟨overtake state.1 state.2, changes_overtake state.1 state.2, ?_⟩
  rcases request with request | request
  · cases request with
    | due now => exact .lists now _ (.ok listed)
    | save event => exact .calm (.save event) _
    | find key => exact .calm (.find key) _
    | update key expected next => exact .calm (.update key expected next) _
  · cases request <;> rfl

def dive (number : Nat) (status : Status) : Event :=
  ⟨⟨.ofNat number⟩, ⟨"Dive"⟩, .epoch, .epoch, status⟩

/-- Two open dives and a cancelled one. -/
def dives : Register where
  events := [dive 1 .opened, dive 2 .opened, dive 3 .cancelled]
  distinct := by decide

/-- The first dive twice, the cancelled one as it stood once, the second one also as if it had been
held, and one that never was. -/
def hearsay : List Event :=
  [dive 1 .opened, dive 2 .opened, dive 1 .opened, dive 3 .opened, dive 2 .held, dive 4 .opened]

/-- The second dive is cancelled while a closing is under way that was given hearsay. The closing
holds the first dive, and counts one. -/
theorem hearsay_is_counted :
    ∃ passed final,
      Walk misleading Register.Changes closeElapsed dives passed (.ok 1) final ∧
        ClosesListed .epoch hearsay passed (.ok 1) ∧
        (final.find? ⟨.ofNat 1⟩).map (·.status) = some .held ∧
        (final.find? ⟨.ofNat 2⟩).map (·.status) = some .cancelled := by
  let others : List Registry.Request :=
    [.find ⟨.ofNat 1⟩, .find ⟨.ofNat 2⟩, .update ⟨.ofNat 2⟩ .opened .cancelled]
  obtain ⟨passed, exchanged, walk⟩ := closing_counts_what_it_held.1 (crossing .epoch hearsay) (·.1)
    (misleading_crossing .epoch hearsay) (dives, others)
  have counted : (closeElapsed.run (crossing .epoch hearsay) (dives, others)).1 = .ok 1 := by
    decide
  rw [counted] at walk
  obtain ⟨now, reply, later, began, _, closes⟩ := closing_counts_what_it_held.2 walk
  obtain ⟨rfl, rfl⟩ : now = .epoch ∧ reply = .ok hearsay := by
    rw [exchanged] at began
    cases began
    exact ⟨rfl, rfl⟩
  exact ⟨passed, _, walk, closes hearsay rfl, by decide, by decide⟩

end ClubOffice.Event
