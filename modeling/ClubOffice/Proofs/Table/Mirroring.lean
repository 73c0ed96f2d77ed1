import ClubOffice.Proofs.Event.Finality
import ClubOffice.Proofs.Table.Rows
import ClubOffice.Table.Ideal

/-!
# A table that mirrors a register

The same requests are made of a register and, by way of statements, of an ideal table. The rows of
the table are at all times those of the events of the register, in the same order, and the replies
are alike: they differ only in the faults of a save under a key that is taken, and of an update that
is not allowed, which the table refuses before it looks for the event.
-/

namespace ClubOffice

/-- The state after some requests, one after the other. -/
def Server.after {P : Interface} {σ : Type} (serve : Server P σ) (requests : List P.Request)
    (state : σ) : σ :=
  requests.foldl (fun state request => (serve request state).2) state

namespace Event.Register

/-- The event of a key, if it stands as expected. -/
def standing? (register : Register) (key : EventKey) (expected : Status) : Option Event :=
  (register.find? key).filter (·.status = expected)

variable {register : Register} {key : EventKey} {expected : Status} {event : Event}

theorem standing?_eq_some_iff :
    register.standing? key expected = some event ↔
      event ∈ register.events ∧ event.key = key ∧ event.status = expected := by
  rw [standing?, Option.filter_eq_some_iff, find?_eq_some_iff, decide_eq_true_iff, and_assoc]

theorem standing?_eq_none_iff :
    register.standing? key expected = none ↔
      ∀ event ∈ register.events, ¬ (event.key = key ∧ event.status = expected) := by
  rw [Option.eq_none_iff_forall_ne_some]
  simp only [Ne, standing?_eq_some_iff, not_and]

theorem update_of_standing?_eq_none (absent : register.standing? key expected = none)
    (next : Status) : register.update key expected next = (.ok false, register) := by
  unfold update
  cases found : register.find? key with
  | none => rfl
  | some event =>
      have differs : event.status ≠ expected := by
        intro same
        have there := (find?_eq_some_iff _ _ _).1 found
        exact standing?_eq_none_iff.1 absent event there.1 ⟨there.2, same⟩
      exact if_neg differs

theorem update_of_standing?_eq_some (found : register.standing? key expected = some event)
    (next : Status) :
    register.update key expected next =
      if expected.mayBecome next then (.ok true, register.setStatus key next)
      else (.error (event.cannotMove next), register) := by
  obtain ⟨member, same, rfl⟩ := standing?_eq_some_iff.1 found
  have stored : register.find? key = some event := (find?_eq_some_iff _ _ _).2 ⟨member, same⟩
  by_cases allowed : event.status.mayBecome next = true
  · simp [update, stored, moveTo, allowed]
  · simp [update, stored, moveTo, allowed]

end Event.Register

namespace Table

open Event Time

/-- Whether the rows of the table are those of the events of the register. -/
def Mirrors (table : EventTable) (register : Register) : Prop :=
  table.rows = register.events.map EventRow.ofEvent

theorem mirrors_empty : Mirrors .empty .empty := rfl

/-- Lists of events that differ at most in the order of those that end together. -/
def UpToTies (events listed : List Event) : Prop :=
  events.Perm listed ∧ events.map (·.endsAt) = listed.map (·.endsAt)

/-- Two lists of the same events that are both in the order of their ends differ in nothing else. -/
theorem upToTies_of_pairwise {events listed : List Event} (perm : events.Perm listed)
    (ordered : events.Pairwise fun a b => a.endsAt ≤ b.endsAt)
    (ordered' : listed.Pairwise fun a b => a.endsAt ≤ b.endsAt) : UpToTies events listed := by
  refine ⟨perm, (perm.map _).eq_of_pairwise ?_ (List.pairwise_map.2 ordered)
    (List.pairwise_map.2 ordered')⟩
  intro time other _ _ before after
  exact Instant.le_antisymm before after

theorem upToTies_due {register : Register} {table : EventTable} (mirrors : Mirrors table register)
    (now : Instant) :
    ∃ listed, table.due now = listed.map EventRow.ofEvent ∧ UpToTies (register.due now) listed := by
  have same : (fun row : EventRow => row.status = "open" && row.endsAt ≤ now) ∘ EventRow.ofEvent =
      fun event => event.isDue now :=
    funext fun _ => EventRow.due_ofEvent now
  refine ⟨sorted (fun a b => a.endsAt ≤ b.endsAt) (register.events.filter (·.isDue now)), ?_, ?_⟩
  · rw [EventTable.due, mirrors, List.filter_map, same, sorted_map]
    rfl
  · have trans : ∀ a b c : Event, a.endsAt ≤ b.endsAt → b.endsAt ≤ c.endsAt → a.endsAt ≤ c.endsAt :=
      fun _ _ _ first second => Int.le_trans first second
    apply upToTies_of_pairwise ((sorted_perm _ _).trans (sorted_perm _ _).symm)
    · refine pairwise_sorted ?_ ?_ trans _
      · intro a b before
        simp only [Register.listedBefore, Bool.or_eq_true, Bool.and_eq_true, decide_eq_true_eq]
          at before
        exact before.elim (fun sooner => Int.le_of_lt sooner) And.left
      · intro a b after
        simp only [Register.listedBefore, Bool.or_eq_false_iff, decide_eq_false_iff_not] at after
        exact Int.not_lt.1 after.1
    · refine pairwise_sorted ?_ ?_ trans _
      · intro a b before
        exact of_decide_eq_true before
      · intro a b after
        exact of_decide_eq_true (Instant.total_by Event.endsAt a b after)

section Running

variable {table after : EventTable} (supply : Supply)

theorem run_save_of_ok {event : Event} {touched : Nat}
    (inserted : table.insert (.ofEvent event) = (.ok touched, after)) :
    (Events.save event).run EventTable.serve (table, supply) = (.ok (), after, supply) := by
  have executed : table.execute (.insertEvent (.ofEvent event)) = (.ok touched, after) := inserted
  simp only [Events.save, finish, query, Plan.run, EventTable.serve, executed]

theorem run_save_of_error {event : Event} {failure : Failure}
    (refused : table.insert (.ofEvent event) = (.error failure, after)) :
    (Events.save event).run EventTable.serve (table, supply) =
      (.error (.internal s!"failed to save club event '{event.key}': {failure.message}"), after,
        supply) := by
  have executed : table.execute (.insertEvent (.ofEvent event)) = (.error failure, after) := refused
  simp only [Events.save, finish, query, Plan.run, EventTable.serve, executed]

theorem run_find (key : EventKey) :
    (Events.find key).run EventTable.serve (table, supply) =
      (match table.rows.filter (·.key = key.uuid) with
        | [] => .ok none
        | row :: _ => some <$> row.read, table, supply) := rfl

theorem run_due (now : Instant) :
    (Events.due now).run EventTable.serve (table, supply) =
      ((table.due now).mapM EventRow.read, table, supply) := rfl

theorem run_update_of_allowed (key : EventKey) {expected next : Status}
    (allowed : expected.mayBecome next = true) :
    (Events.update key expected next).run EventTable.serve (table, supply) =
      (.ok (decide (0 < (table.update key.uuid expected.word next.word).1)),
        (table.update key.uuid expected.word next.word).2, supply) := by
  rw [Events.update, if_pos allowed]
  rfl

theorem run_update_of_not_allowed (key : EventKey) {expected next : Status}
    (refused : expected.mayBecome next = false) :
    (Events.update key expected next).run EventTable.serve (table, supply) =
      (.error (Events.cannotMove expected next), table, supply) := by
  rw [Events.update, if_neg (Bool.eq_false_iff.1 refused)]
  rfl

end Running

/-- How a reply of a register and one of a table to the same request are alike. -/
def Alike (register : Register) :
    (request : registry.Request) → registry.Reply request → registry.Reply request → Prop
  | .save event, reply, reply' =>
      if register.find? event.key = none then reply = .ok () ∧ reply' = .ok ()
      else
        reply = .error (Register.taken event.key) ∧
          reply' = .error (.internal
            s!"failed to save club event '{event.key}': {EventTable.duplicate.message}")
  | .find key, reply, reply' =>
      reply = .ok (register.find? key) ∧ reply' = .ok (register.find? key)
  | .due _, reply, reply' =>
      ∃ events listed, reply = .ok events ∧ reply' = .ok listed ∧ UpToTies events listed
  | .update key expected next, reply, reply' =>
      if expected.mayBecome next then
        reply = .ok (register.standing? key expected).isSome ∧
          reply' = .ok (register.standing? key expected).isSome
      else
        reply = (register.standing? key expected).elim (.ok false)
            (fun event => .error (event.cannotMove next)) ∧
          reply' = .error (Events.cannotMove expected next)

/-- Replies to requests of a register by way of a table. -/
def Events.serve : Server registry (EventTable × Supply) :=
  fun request => (perform request).run EventTable.serve

/-- Whether a register and a table reply alike to a request, and mirror each other after it. -/
def Agree (register : Register) (state : EventTable × Supply) (request : registry.Request) : Prop :=
  Alike register request (Register.serve request register).1 (Events.serve request state).1 ∧
    Mirrors (Events.serve request state).2.1 (Register.serve request register).2

section Requests

variable {register : Register} {table : EventTable} (mirrors : Mirrors table register)
variable (supply : Supply)

include mirrors

theorem agree_save (event : Event) : Agree register (table, supply) (.save event) := by
  have present : table.rows.any (·.key = event.key.uuid) = true ↔
      event.key ∈ register.events.map (·.key) := by
    rw [mirrors]
    simp [EventRow.key_ofEvent_eq_iff]
  by_cases taken : event.key ∈ register.events.map (·.key)
  · have refused : table.insert (.ofEvent event) = (.error EventTable.duplicate, table) :=
      if_pos (present.2 taken)
    have found : register.find? event.key ≠ none :=
      fun none => (Register.find?_eq_none_iff _ _).1 none taken
    have saved : register.save event = .error (Register.taken event.key) := dif_pos taken
    simp only [Agree, Events.serve, Events.perform, run_save_of_error supply refused, Register.serve, saved, Alike,
      if_neg found, true_and]
    exact mirrors
  · have inserted : table.insert (.ofEvent event) = (.ok 1, ⟨table.rows ++ [.ofEvent event]⟩) :=
      if_neg fun there => taken (present.1 there)
    have absent : register.find? event.key = none := (Register.find?_eq_none_iff _ _).2 taken
    obtain ⟨larger, events, saved⟩ := (Register.save_cases register event).resolve_left
      (by simp [Register.save, taken])
    simp only [Agree, Events.serve, Events.perform, run_save_of_ok supply inserted, Register.serve, saved, Alike,
      if_pos absent, true_and]
    rw [Mirrors, events, mirrors, List.map_append]
    rfl

theorem agree_find (sound : register.Sound) (key : EventKey) :
    Agree register (table, supply) (.find key) := by
  have same : (fun row : EventRow => decide (row.key = key.uuid)) ∘ EventRow.ofEvent =
      fun event => decide (event.key = key) := by
    funext event
    simp [EventRow.key_ofEvent_eq_iff]
  have run : (Events.find key).run EventTable.serve (table, supply) =
      (.ok (register.find? key), table, supply) := by
    have found : (register.events.filter (·.key = key)).head? = register.find? key :=
      List.head?_filter
    rw [run_find, mirrors, List.filter_map, same, ← found]
    cases listed : register.events.filter (·.key = key) with
    | nil => rfl
    | cons event events =>
        have member : event ∈ register.events := by
          have among : event ∈ register.events.filter (·.key = key) := by simp [listed]
          exact (List.mem_filter.1 among).1
        simp only [List.map_cons, EventRow.read_ofEvent (sound event member)]
        rfl
  rw [Agree, Events.serve, Events.perform, run]
  exact ⟨⟨rfl, rfl⟩, mirrors⟩

theorem agree_due (sound : register.Sound) (now : Instant) :
    Agree register (table, supply) (.due now) := by
  obtain ⟨listed, rows, same⟩ := upToTies_due mirrors now
  have readable : ∀ event ∈ listed, event.Sound := by
    intro event member
    have due := same.1.mem_iff.2 member
    exact sound event ((Register.mem_due _ _ _).1 due).1
  rw [Agree, Events.serve, Events.perform, run_due, rows,
    mapM_map_eq_ok fun event member => EventRow.read_ofEvent (readable event member)]
  exact ⟨⟨register.due now, listed, rfl, rfl, same⟩, mirrors⟩

/-- An update touches a row of the table if the register holds an event that stands as expected. -/
theorem touched_update (key : EventKey) (expected : Status) (next : String) :
    decide (0 < (table.update key.uuid expected.word next).1) =
      (register.standing? key expected).isSome := by
  rw [EventTable.update, mirrors, Bool.eq_iff_iff, decide_eq_true_iff, List.countP_pos_iff,
    Option.isSome_iff_exists]
  simp only [Register.standing?_eq_some_iff, List.mem_map]
  constructor
  · rintro ⟨_, ⟨event, member, rfl⟩, matching⟩
    exact ⟨event, member, (EventRow.matching_ofEvent_iff _ _).1 matching⟩
  · rintro ⟨event, member, stands⟩
    exact ⟨_, ⟨event, member, rfl⟩, (EventRow.matching_ofEvent_iff _ _).2 stands⟩

theorem mirrors_update_of_none {key : EventKey} {expected : Status} (next : String)
    (absent : register.standing? key expected = none) :
    Mirrors (table.update key.uuid expected.word next).2 register := by
  have others := Register.standing?_eq_none_iff.1 absent
  rw [Mirrors, EventTable.update, mirrors, List.map_map]
  apply List.map_congr_left
  intro event member
  have unmatched := others event member
  rw [← EventRow.matching_ofEvent_iff] at unmatched
  exact if_neg unmatched

theorem mirrors_update_of_some {key : EventKey} {expected : Status} {event : Event} (next : Status)
    (found : register.standing? key expected = some event) :
    Mirrors (table.update key.uuid expected.word next.word).2 (register.setStatus key next) := by
  obtain ⟨member, same, stands⟩ := Register.standing?_eq_some_iff.1 found
  rw [Mirrors, EventTable.update, mirrors, Register.setStatus, List.map_map, List.map_map]
  apply List.map_congr_left
  intro other present
  by_cases own : other.key = key
  · -- No other event has the key, so that the row stands as expected, too.
    have whole : other = event :=
      Keyed.eq_of_key register.distinct present member (own.trans same.symm)
    have matching := (EventRow.matching_ofEvent_iff key expected).2 ⟨own, whole ▸ stands⟩
    have moved : Register.withStatus key next other = { other with status := next } := if_pos own
    rw [Function.comp_apply, Function.comp_apply, if_pos matching, moved]
    rfl
  · have unmatched : ¬ EventTable.matching key.uuid expected.word (.ofEvent other) = true :=
      fun matching => own ((EventRow.matching_ofEvent_iff _ _).1 matching).1
    have unmoved : Register.withStatus key next other = other := if_neg own
    rw [Function.comp_apply, Function.comp_apply, if_neg unmatched, unmoved]

theorem agree_update (key : EventKey) (expected next : Status) :
    Agree register (table, supply) (.update key expected next) := by
  cases standing : register.standing? key expected with
  | none =>
      have unmoved := Register.update_of_standing?_eq_none standing next
      cases allowed : expected.mayBecome next with
      | false =>
          simp [Agree, Events.serve, Events.perform, run_update_of_not_allowed supply key allowed, Alike, allowed,
            Register.serve, unmoved, standing, mirrors]
      | true =>
          simp [Agree, Events.serve, Events.perform, run_update_of_allowed supply key allowed, Alike, allowed,
            Register.serve, unmoved, touched_update mirrors, standing,
            mirrors_update_of_none mirrors _ standing]
  | some event =>
      have moved := Register.update_of_standing?_eq_some standing next
      cases allowed : expected.mayBecome next with
      | false =>
          simp [Agree, Events.serve, Events.perform, run_update_of_not_allowed supply key allowed, Alike, allowed,
            Register.serve, moved, standing, mirrors]
      | true =>
          simp [Agree, Events.serve, Events.perform, run_update_of_allowed supply key allowed, Alike, allowed,
            Register.serve, moved, touched_update mirrors, standing,
            mirrors_update_of_some mirrors _ standing]

theorem agree (sound : register.Sound) (request : registry.Request) :
    Agree register (table, supply) request := by
  cases request with
  | save event => exact agree_save mirrors supply event
  | find key => exact agree_find mirrors supply sound key
  | due now => exact agree_due mirrors supply sound now
  | update key expected next => exact agree_update mirrors supply key expected next

end Requests

theorem mirrors_after (earlier : List registry.Request)
    (sound : ∀ event, .save event ∈ earlier → event.Sound) {register : Register}
    {state : EventTable × Supply} (soundBefore : register.Sound)
    (mirrors : Mirrors state.1 register) :
    (Register.serve.after earlier register).Sound ∧
      Mirrors (Events.serve.after earlier state).1 (Register.serve.after earlier register) := by
  induction earlier generalizing register state with
  | nil => exact ⟨soundBefore, mirrors⟩
  | cons request earlier ih =>
      have here : ∀ event, request = .save event → event.Sound :=
        fun event same => sound event (same ▸ List.mem_cons_self)
      exact ih (fun event member => sound event (List.mem_cons_of_mem _ member))
        (soundBefore.serve request here) (agree mirrors state.2 soundBefore request).2

/-- Whatever sound events were saved, and whatever else was asked for: the next reply of the table
is like that of the register, and each event has its row. -/
theorem table_replies_like_register (earlier : List registry.Request)
    (sound : ∀ event, .save event ∈ earlier → event.Sound) (request : registry.Request)
    (supply : Supply) :
    Alike (Register.serve.after earlier .empty) request
        (Register.serve request (Register.serve.after earlier .empty)).1
        (Events.serve request (Events.serve.after earlier (.empty, supply))).1 ∧
      Mirrors (Events.serve request (Events.serve.after earlier (.empty, supply))).2.1
        (Register.serve request (Register.serve.after earlier .empty)).2 := by
  have first : Mirrors ((EventTable.empty, supply) : EventTable × Supply).1 .empty := mirrors_empty
  obtain ⟨soundThen, mirrors⟩ := mirrors_after earlier sound Register.sound_empty first
  exact agree mirrors _ soundThen request

def gala : Event := ⟨⟨.ofNat 1⟩, ⟨"Gala"⟩, .epoch, .epoch, .opened⟩

def galaRequests : List registry.Request :=
  [.save gala, .find gala.key, .update gala.key .opened .held, .update gala.key .opened .cancelled]

/-- After a gala was saved and held, it is found held, and a second save of it is refused. -/
theorem gala_is_mirrored :
    (∀ event, .save event ∈ galaRequests → event.Sound) ∧
      Mirrors (Events.serve (.save gala) (Events.serve.after galaRequests (.empty, ⟨0⟩))).2.1
        (Register.serve (.save gala) (Register.serve.after galaRequests .empty)).2 ∧
      (Events.serve (.find gala.key) (Events.serve.after galaRequests (.empty, ⟨0⟩))).1 =
        .ok (some { gala with status := .held }) := by
  have sound : ∀ event, .save event ∈ galaRequests → event.Sound := by
    intro event member
    have same : event = gala := by simpa [galaRequests] using member
    subst same
    decide
  have saved := table_replies_like_register galaRequests sound (.save gala) ⟨0⟩
  have found := table_replies_like_register galaRequests sound (.find gala.key) ⟨0⟩
  refine ⟨sound, saved.2, ?_⟩
  rw [found.1.2]
  decide

/-- Where there is nothing, a move from held to open does nothing in the register, and is not valid
for the table. A second save is a conflict in the register, and an internal fault of the table. -/
theorem faults_are_told_differently :
    (Register.serve (.update gala.key .held .opened) .empty).1 = .ok false ∧
      (Events.serve (.update gala.key .held .opened) (.empty, ⟨0⟩)).1 =
        .error (.validation "club event status cannot move from 'held' to 'open'") ∧
      (Register.serve (.save gala) (Register.serve.after [.save gala] .empty)).1 =
        .error (.conflict
          "club event '00000000-0000-0000-0000-000000000001' already exists") ∧
      ∃ detail, (Events.serve (.save gala) (Events.serve.after [.save gala] (.empty, ⟨0⟩))).1 =
        .error (.internal detail) := by
  refine ⟨rfl, rfl, ?_, _, rfl⟩
  decide

end Table

end ClubOffice
