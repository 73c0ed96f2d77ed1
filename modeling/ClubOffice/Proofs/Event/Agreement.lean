import ClubOffice.Proofs.Event.Disturbance
import ClubOffice.Proofs.Event.Endings

/-!
# Results, register and trail

A creation and a cancellation tell three times what they did: by how they end, by what they changed
in the register, and by what they reported. The three agree, whichever calls fail, whatever others
do to the register in between, and whether or not the trail takes the reports.
-/

namespace ClubOffice.Event

open Audit Passage Plan Relation

/-- Whether a passage adds the event, which is open and was not there before, and nothing else. -/
structure Adds (event : Event) (passage : Passage registry Register) : Prop where
  opened : event.status = .opened
  before : passage.before.find? event.key = none
  after : passage.after.events = passage.before.events ++ [event]

/-- Whether a passage is the update that takes the event of a key from open to what is given, which
is cancelled, and leaves every other event as it was. -/
structure Cancels (key : EventKey) (event : Event) (passage : Passage registry Register) :
    Prop where
  asked : passage.exchange = ⟨.update key .opened .cancelled, .ok true⟩
  cancelled : event.status = .cancelled
  before : passage.before.find? key = some { event with status := .opened }
  after : passage.after.find? key = some event
  others : ∀ other, other ≠ key → passage.after.find? other = passage.before.find? other

/-- The faults that a cancellation ends with: that there is no such event, that the event was not
open when it was read or when it was to be moved, and what the register failed with. -/
inductive Denies (key : EventKey) (passed : List (Passage registry Register)) : Fault → Prop
  | missing {passage : Passage registry Register} (member : passage ∈ passed)
      (asked : passage.exchange = ⟨.find key, .ok none⟩)
      (absent : passage.before.find? key = none) :
      Denies key passed (.notFound s!"event '{key}'")
  | closed {passage : Passage registry Register} (member : passage ∈ passed) {event : Event}
      (asked : passage.exchange = ⟨.find key, .ok (some event)⟩)
      (found : passage.before.find? key = some event) (closed : event.status ≠ .opened) :
      Denies key passed (.refused ⟨s!"event {key} cannot be cancelled", .warning⟩)
  | refused {passage : Passage registry Register} (member : passage ∈ passed)
      (asked : passage.exchange = ⟨.update key .opened .cancelled, .ok false⟩) :
      Denies key passed (.refused ⟨s!"event {key} cannot be cancelled", .warning⟩)
  | unread {passage : Passage registry Register} (member : passage ∈ passed) {fault : Fault}
      (asked : passage.exchange = ⟨.find key, .error fault⟩) : Denies key passed fault
  | unmoved {passage : Passage registry Register} (member : passage ∈ passed) {fault : Fault}
      (asked : passage.exchange = ⟨.update key .opened .cancelled, .error fault⟩) :
      Denies key passed fault

/-- How a call ended fits what it did to the register: it ended with an event if it changed the
register once, by what makes that event, and in a fault if it left the register as it was. -/
structure Agrees (makes : Event → Passage registry Register → Prop) (exit : Exit Event)
    (passed : List (Passage registry Register)) : Prop where
  made : ∀ event, exit = .value event ↔ ChangesOnce (makes event) passed
  idle : (∀ event, exit ≠ .value event) → Idle passed
  ends : ∀ message, exit ≠ .crash message

/-- How a cancellation ended fits what it did and what it was told. An event that it cancelled
stands as it was returned in all registers that come after. -/
structure CancellationAgrees (key : EventKey) (exit : Exit Event)
    (passed : List (Passage registry Register)) : Prop extends
    Agrees (Cancels key) exit passed where
  stands : ∀ event, ∀ passage ∈ passed, Cancels key event passage →
    ∀ later, ReflTransGen Register.Changes passage.after later → later.find? key = some event
  denied : ∀ cause, exit = .fault cause ↔ Denies key passed cause
  answered : ∀ passage ∈ passed, passage.exchange = ⟨.update key .opened .cancelled, .ok true⟩ →
    ∃ event, exit = .value event

section Passages

variable {key : EventKey} {event : Event} {exit : Exit Event} {cause : Fault}
variable {passage : Passage registry Register} {passed : List (Passage registry Register)}

theorem Adds.changes (adds : Adds event passage) : passage.after ≠ passage.before := by
  intro same
  have longer := congrArg List.length adds.after
  rw [same, List.length_append, List.length_singleton] at longer
  omega

theorem Adds.event_eq {other : Event} (adds : Adds event passage) (adds' : Adds other passage) :
    event = other :=
  List.singleton_inj.1 (List.append_cancel_left (adds.after.symm.trans adds'.after))

theorem Cancels.changes (cancels : Cancels key event passage) :
    passage.after ≠ passage.before := by
  intro same
  have found := cancels.after
  rw [same, cancels.before] at found
  have standing : Status.opened = event.status := congrArg Event.status (Option.some.inj found)
  rw [cancels.cancelled] at standing
  cases standing

theorem Cancels.event_eq {other : Event} (cancels : Cancels key event passage)
    (cancels' : Cancels key other passage) : event = other :=
  Option.some.inj (cancels.after.symm.trans cancels'.after)

section Agrees

variable {makes : Event → Passage registry Register → Prop}
variable (changes : ∀ {event passage}, makes event passage → passage.after ≠ passage.before)

include changes

theorem agrees_of_idle (idle : Idle passed) (fault : Fault) :
    Agrees makes (.fault fault) passed where
  made event := by
    constructor
    · intro same
      cases same
    · intro once
      exact absurd idle (once.not_idle fun _ made => changes made)
  idle _ := idle
  ends message same := by cases same

/-- A call that ended with what it made agrees, where what is made is told by the change. -/
theorem agrees_of_once
    (single : ∀ {event other passage}, makes event passage → makes other passage → event = other)
    (once : ChangesOnce (makes event) passed) : Agrees makes (.value event) passed where
  made other := by
    constructor
    · intro same
      cases same
      exact once
    · intro again
      obtain ⟨passage, _, made, made'⟩ := once.both again fun _ made => changes made
      exact congrArg Exit.value (single made made')
  idle none := absurd rfl (none event)
  ends message same := by cases same

end Agrees

/-- An event that was open when it was read is moved as it was read, whatever happened since. -/
theorem cancels_of_read {register before after : Register}
    (found : register.find? key = some event) (opened : event.status = .opened)
    (becomes : register.Becomes before)
    (updated : Disturbed (.update key .opened .cancelled) before (.ok true) after) :
    Cancels key { event with status := .cancelled }
      ⟨before, ⟨.update key .opened .cancelled, .ok true⟩, after⟩ := by
  rcases updated.update_cases with ⟨refused, _⟩ | ⟨_, stored, member, same, standing, _, rfl⟩
  · exact absurd rfl refused
  have there : before.find? key = some stored :=
    (Register.find?_eq_some_iff before key stored).2 ⟨member, same⟩
  obtain ⟨kept, still, stays⟩ := becomes key event found
  -- What was read may be stale, but an event that is still open has not changed since.
  have whole : stored = event := by
    rw [there] at still
    cases still
    rcases stays with unchanged | ⟨_, status, closed, rfl⟩
    · exact unchanged
    · exact absurd standing closed
  subst whole
  have reopened : ({ stored with status := .opened } : Event) = stored := by rw [← standing]
  have moved : Register.withStatus key .cancelled stored = { stored with status := .cancelled } :=
    if_pos same
  refine ⟨rfl, rfl, ?_, ?_, fun other differs => Register.find?_setStatus_of_ne _ differs _⟩
  · rw [there, ← reopened]
  · rw [Register.find?_setStatus, there, Option.map_some, moved]

/-- A creation fails and leaves the register as it is, or ends with the event that it added. -/
theorem creation_cases (creation : Creation (passed.map (·.exchange)) exit)
    (replied : ∀ passage ∈ passed,
      Disturbed passage.exchange.1 passage.before passage.exchange.2 passage.after) :
    (Idle passed ∧ ∃ fault, exit = .fault fault) ∨
      ∃ event, exit = .value event ∧ ChangesOnce (Adds event) passed := by
  generalize made : passed.map (·.exchange) = exchanges at creation
  cases creation with
  | unplanned fault =>
      rw [List.map_eq_nil_iff] at made
      subst made
      exact .inl ⟨List.forall_mem_nil _, fault, rfl⟩
  | unsaved event fault =>
      obtain ⟨before, after, rfl⟩ := of_map_eq_singleton made
      have saved := Disturbed.save_cases (replied _ (List.mem_singleton_self _))
      rcases saved with ⟨_, _, unchanged⟩ | ⟨done, _⟩
      · exact .inl ⟨List.forall_mem_singleton.2 unchanged, fault, rfl⟩
      · cases done
  | saved event opened =>
      obtain ⟨before, after, rfl⟩ := of_map_eq_singleton made
      have saved := Disturbed.save_cases (replied _ (List.mem_singleton_self _))
      rcases saved with ⟨_, refused, _⟩ | ⟨_, fresh, events⟩
      · cases refused
      · have absent := (Register.find?_eq_none_iff before event.key).2 fresh
        have adds : Adds event ⟨before, ⟨.save event, .ok ()⟩, after⟩ := ⟨opened, absent, events⟩
        exact .inr ⟨event, rfl, .intro [] _ [] adds (List.forall_mem_nil _)⟩

/-- A cancellation fails, for a reason that it read or was told, and leaves the register as it is,
or ends with the event that it moved. -/
theorem cancellation_cases (cancellation : Cancellation key (passed.map (·.exchange)) exit)
    (replied : ∀ passage ∈ passed,
      Disturbed passage.exchange.1 passage.before passage.exchange.2 passage.after)
    (ordered : passed.Pairwise fun passage later => passage.after.Becomes later.before) :
    (Idle passed ∧ ∃ fault, exit = .fault fault ∧ Denies key passed fault) ∨
      ∃ event, exit = .value event ∧ ChangesOnce (Cancels key event) passed := by
  generalize made : passed.map (·.exchange) = exchanges at cancellation
  cases cancellation with
  | unread fault =>
      obtain ⟨before, after, rfl⟩ := of_map_eq_singleton made
      have unchanged := Disturbed.unchanged_find (replied _ (List.mem_singleton_self _))
      refine .inl ⟨List.forall_mem_singleton.2 unchanged, fault, rfl, ?_⟩
      exact .unread (List.mem_singleton_self _) rfl
  | missing =>
      obtain ⟨before, after, rfl⟩ := of_map_eq_singleton made
      have read := replied _ (List.mem_singleton_self _)
      have unchanged := Disturbed.unchanged_find read
      refine .inl ⟨List.forall_mem_singleton.2 unchanged, _, rfl, ?_⟩
      exact .missing (List.mem_singleton_self _) rfl (Disturbed.find?_of_found read)
  | closed event closed =>
      obtain ⟨before, after, rfl⟩ := of_map_eq_singleton made
      have read := replied _ (List.mem_singleton_self _)
      have unchanged := Disturbed.unchanged_find read
      refine .inl ⟨List.forall_mem_singleton.2 unchanged, _, rfl, ?_⟩
      exact .closed (List.mem_singleton_self _) rfl (Disturbed.find?_of_found read) closed
  | unmoved event fault opened =>
      obtain ⟨before, after, before', after', rfl⟩ := of_map_eq_pair made
      obtain ⟨read, rest⟩ := List.forall_mem_cons.1 replied
      have updated := List.forall_mem_singleton.1 rest
      have first := Disturbed.unchanged_find read
      have second := Disturbed.unchanged_update updated (by simp)
      refine .inl ⟨?_, fault, rfl, ?_⟩
      · exact List.forall_mem_cons.2 ⟨first, List.forall_mem_singleton.2 second⟩
      · exact .unmoved (List.mem_cons_of_mem _ List.mem_cons_self) rfl
  | refused event opened =>
      obtain ⟨before, after, before', after', rfl⟩ := of_map_eq_pair made
      obtain ⟨read, rest⟩ := List.forall_mem_cons.1 replied
      have updated := List.forall_mem_singleton.1 rest
      have first := Disturbed.unchanged_find read
      have second := Disturbed.unchanged_update updated (by simp)
      refine .inl ⟨?_, _, rfl, ?_⟩
      · exact List.forall_mem_cons.2 ⟨first, List.forall_mem_singleton.2 second⟩
      · exact .refused (List.mem_cons_of_mem _ List.mem_cons_self) rfl
  | moved event opened =>
      obtain ⟨before, after, before', after', rfl⟩ := of_map_eq_pair made
      obtain ⟨read, rest⟩ := List.forall_mem_cons.1 replied
      have updated := List.forall_mem_singleton.1 rest
      have unchanged : after = before := Disturbed.unchanged_find read
      have becomes : before.Becomes before' := by
        rw [← unchanged]
        exact List.rel_of_pairwise_cons ordered (List.mem_singleton_self _)
      have cancels := cancels_of_read (Disturbed.find?_of_found read) opened becomes updated
      refine .inr ⟨_, rfl, .intro [_] _ [] cancels ?_⟩
      exact List.forall_mem_singleton.2 unchanged

theorem Cancellation.fault_of_denies
    (cancellation : Cancellation key (passed.map (·.exchange)) exit)
    (denies : Denies key passed cause) : exit = .fault cause := by
  have among {passage : Passage registry Register} {exchange : Exchange registry}
      (member : passage ∈ passed) (asked : passage.exchange = exchange) :
      exchange ∈ passed.map (·.exchange) := asked ▸ List.mem_map_of_mem member
  generalize passed.map (·.exchange) = exchanges at cancellation among
  cases denies with
  | missing member asked _ =>
      have there := among member asked
      cases cancellation <;> simp at there
      rfl
  | closed member asked _ closed =>
      have there := among member asked
      cases cancellation <;> simp at there
      case closed => rfl
      all_goals
        rename_i opened
        exact absurd opened (there ▸ closed)
  | refused member asked =>
      have there := among member asked
      cases cancellation <;> simp at there
      rfl
  | unread member asked =>
      have there := among member asked
      cases cancellation <;> simp at there
      rw [there]
  | unmoved member asked =>
      have there := among member asked
      cases cancellation <;> simp at there
      rw [there]

theorem Cancellation.value_of_yes (cancellation : Cancellation key (passed.map (·.exchange)) exit)
    (member : passage ∈ passed)
    (asked : passage.exchange = ⟨.update key .opened .cancelled, .ok true⟩) :
    ∃ event, exit = .value event := by
  have there : (⟨.update key .opened .cancelled, .ok true⟩ : Exchange registry) ∈
      passed.map (·.exchange) := asked ▸ List.mem_map_of_mem member
  generalize passed.map (·.exchange) = exchanges at cancellation there
  cases cancellation <;> simp at there
  exact ⟨_, rfl⟩

theorem creation_agrees (creation : Creation (passed.map (·.exchange)) exit)
    (replied : ∀ passage ∈ passed,
      Disturbed passage.exchange.1 passage.before passage.exchange.2 passage.after) :
    Agrees Adds exit passed := by
  rcases creation_cases creation replied with ⟨idle, fault, rfl⟩ | ⟨event, rfl, once⟩
  · exact agrees_of_idle Adds.changes idle fault
  · exact agrees_of_once Adds.changes Adds.event_eq once

theorem cancellation_agrees (cancellation : Cancellation key (passed.map (·.exchange)) exit)
    (replied : ∀ passage ∈ passed,
      Disturbed passage.exchange.1 passage.before passage.exchange.2 passage.after)
    (ordered : passed.Pairwise fun passage later => passage.after.Becomes later.before) :
    CancellationAgrees key exit passed where
  toAgrees := by
    rcases cancellation_cases cancellation replied ordered with
      ⟨idle, fault, rfl, _⟩ | ⟨event, rfl, once⟩
    · exact agrees_of_idle Cancels.changes idle fault
    · exact agrees_of_once Cancels.changes Cancels.event_eq once
  stands event passage _ cancels later changes := by
    refine Register.stays_closed cancels.after ?_ changes
    rw [cancels.cancelled]
    decide
  denied cause := by
    constructor
    · intro ended
      rcases cancellation_cases cancellation replied ordered with
        ⟨_, fault, same, denies⟩ | ⟨event, same, _⟩
      · cases ended.symm.trans same
        exact denies
      · cases ended.symm.trans same
    · intro denies
      exact cancellation.fault_of_denies denies
  answered passage member asked := cancellation.value_of_yes member asked

end Passages

section Walks

variable {slot after : Slot} {exit : Exit Event} {register final : Register} {α : Type}
variable {plan : Plan (registry.plus ambient) α} {result : α}
variable {passed : List (Passage (registry.plus ambient) Register)}

theorem disturbed_of_walk
    (walk : Walk unsteady Register.Changes plan register passed result final) :
    ∀ passage ∈ passed.filterMap Passage.left?,
      Disturbed passage.exchange.1 passage.before passage.exchange.2 passage.after := by
  intro passage member
  obtain ⟨⟨before, ⟨request | request, reply⟩, later⟩, present, same⟩ := List.mem_filterMap.1 member
  · cases same
    exact walk.replied _ present
  · cases same

theorem ordered_of_walk
    (walk : Walk unsteady Register.Changes plan register passed result final) :
    (passed.filterMap Passage.left?).Pairwise fun passage later =>
      passage.after.Becomes later.before := by
  refine List.Pairwise.filterMap _ ?_
    (walk.pairwise_leads (fun _ _ drifted => drifted) changes_unsteady)
  rintro ⟨_, ⟨request | request, reply⟩, _⟩ ⟨_, ⟨request' | request', reply'⟩, _⟩
    leads _ same _ same'
  · cases same
    cases same'
    exact Register.becomes_of_changes leads
  · cases same'
  · cases same
  · cases same

/-- However a creation or a cancellation is disturbed, by calls that fail or are answered with no,
by others that change the register in between, and by reports that are not taken: it ends with an
event if and only if it made that event or moved it, else it changed nothing, and it reports a start
and then what its end calls for. -/
theorem results_and_reports_agree :
    (∀ draft,
      Walk unsteady Register.Changes (create draft slot) register passed (exit, after) final →
        Agrees Adds exit (passed.filterMap Passage.left?) ∧
          Reported "creating event" "event created" none exit
            (attempted (passed.map (·.exchange)))) ∧
      ∀ key,
        Walk unsteady Register.Changes (cancel key slot) register passed (exit, after) final →
          CancellationAgrees key exit (passed.filterMap Passage.left?) ∧
            (∀ passage ∈ passed, ReflTransGen Register.Changes passage.after final) ∧
            Reported "cancelling event" "event cancelled" (some "event cancellation failed") exit
              (attempted (passed.map (·.exchange))) := by
  constructor
  · intro draft walk
    obtain ⟨inner, within, left, whole, same, trace, began, ended, lines, closes, records⟩ :=
      course_of_audited walk.course
    obtain ⟨quiet, creation⟩ := creation_of_course whole
    rw [← same, told, ← filterMap_left?] at creation
    rw [quiet] at records
    exact ⟨creation_agrees creation (disturbed_of_walk walk),
      trace, began, ended, lines, closes, records⟩
  · intro key walk
    obtain ⟨inner, within, left, whole, same, trace, began, ended, lines, closes, records⟩ :=
      course_of_audited walk.course
    obtain ⟨quiet, cancellation⟩ := cancellation_of_course whole
    rw [← same, told, ← filterMap_left?] at cancellation
    rw [quiet] at records
    refine ⟨cancellation_agrees cancellation (disturbed_of_walk walk) (ordered_of_walk walk), ?_,
      trace, began, ended, lines, closes, records⟩
    exact walk.leads_on (fun _ _ drifted => drifted) changes_unsteady

end Walks

def regattaDraft : Draft := ⟨"Regatta", .epoch, .epoch⟩

def regattaKey : EventKey := ⟨.ofNat 2⟩

/-- The one event is open, it will be held while it is being cancelled, and no report is taken. -/
def crossed : Scene :=
  let planned := ((Scene.set ⟨0⟩ .epoch).perform (create regattaDraft)).2
  { planned.arrange .update (.race .held) with reject := some (.internal "the trail is full") }

theorem crossed_agrees :
    (∃ event passed left,
      Walk unsteady Register.Changes (create regattaDraft .outside) .empty passed
        (.value event, left) crossed.register ∧
      event.key = regattaKey ∧ ChangesOnce (Adds event) (passed.filterMap Passage.left?)) ∧
    ∃ passed left,
      Walk unsteady Register.Changes (cancel regattaKey .outside) crossed.register passed
        ((crossed.perform (cancel regattaKey)).1, left)
        (crossed.perform (cancel regattaKey)).2.register ∧
      ((crossed.perform (cancel regattaKey)).2.register.find? regattaKey).map (·.status) =
        some .held ∧
      CancellationAgrees regattaKey (crossed.perform (cancel regattaKey)).1
        (passed.filterMap Passage.left?) ∧
      Idle (passed.filterMap Passage.left?) := by
  constructor
  · obtain ⟨passed, left, walk⟩ := (Scene.set ⟨0⟩ .epoch).walk_perform (create regattaDraft)
    have ended : ((Scene.set ⟨0⟩ .epoch).perform (create regattaDraft)).1 =
        .value ⟨regattaKey, ⟨"Regatta"⟩, .epoch, .epoch, .opened⟩ := by decide
    rw [ended] at walk
    have agrees := (results_and_reports_agree.1 regattaDraft walk).1
    exact ⟨_, passed, left, walk, rfl, (agrees.made _).1 rfl⟩
  · obtain ⟨passed, left, walk⟩ := crossed.walk_perform (cancel regattaKey)
    have agrees := (results_and_reports_agree.2 regattaKey walk).1
    have failed : ∀ event, (crossed.perform (cancel regattaKey)).1 ≠ .value event := by
      have ended : (crossed.perform (cancel regattaKey)).1 =
          .fault (notCancellable regattaKey) := by decide
      rw [ended]
      intro event same
      cases same
    exact ⟨passed, left, walk, by decide, agrees, agrees.idle failed⟩

end ClubOffice.Event
