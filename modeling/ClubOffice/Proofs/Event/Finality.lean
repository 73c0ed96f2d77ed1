import ClubOffice.Proofs.Event.Move
import ClubOffice.Proofs.Event.Restoring
import Mathlib.Logic.Relation

/-!
# Events that are closed for good

No request takes an event away from a register or changes what was planned. An event that is open
can be closed by one request, and an event that is held or cancelled does not change any more.
-/

namespace ClubOffice.Event

open Relation Time

/-- How an event can stand later on: as it did, or closed if it was open. -/
def Becomes (event later : Event) : Prop :=
  later = event ∨
    event.status = .opened ∧ ∃ status, status ≠ .opened ∧ later = { event with status := status }

namespace Becomes

variable {event next last : Event}

theorem refl (event : Event) : event.Becomes event := .inl rfl

theorem eq_of_closed (becomes : event.Becomes next) (closed : event.status ≠ .opened) :
    next = event := by
  rcases becomes with same | ⟨opened, _⟩
  · exact same
  · exact absurd opened closed

theorem trans (first : event.Becomes next) (second : next.Becomes last) : event.Becomes last := by
  rcases first with rfl | ⟨opened, status, closed, rfl⟩
  · exact second
  · rw [second.eq_of_closed closed]
    exact .inr ⟨opened, status, closed, rfl⟩

end Becomes

theorem becomes_withStatus {event : Event} (opened : event.status = .opened) {next : Status}
    (closed : next ≠ .opened) (key : EventKey) :
    event.Becomes (Register.withStatus key next event) := by
  unfold Register.withStatus
  split
  · exact .inr ⟨opened, next, closed, rfl⟩
  · exact .refl event

theorem sound_restore {key : EventKey} {draft : Draft} {status : Status} {event : Event}
    (restored : restore key draft status = .ok event) : event.Sound :=
  (restore_eq_ok_iff.1 restored).1

namespace Register

variable {register larger next last : Register}

theorem find?_eq_none_iff (register : Register) (key : EventKey) :
    register.find? key = none ↔ key ∉ register.events.map (·.key) := by
  simp [find?, List.find?_eq_none]

theorem find?_append {event : Event} (events : larger.events = register.events ++ [event])
    (key : EventKey) :
    larger.find? key = (register.find? key).or (if event.key = key then some event else none) := by
  by_cases same : event.key = key
  · simp [find?, events, List.find?_append, same]
  · simp [find?, events, List.find?_append, same]

theorem find?_setStatus (register : Register) (key other : EventKey) (next : Status) :
    (register.setStatus key next).find? other =
      (register.find? other).map (withStatus key next) := by
  have same : (fun event : Event => decide (event.key = other)) ∘ withStatus key next =
      fun event => decide (event.key = other) := by
    funext event
    simp only [Function.comp_apply, key_withStatus]
  unfold find? setStatus
  rw [List.find?_map, same]

theorem find?_setStatus_of_ne (register : Register) {key other : EventKey} (differs : other ≠ key)
    (next : Status) : (register.setStatus key next).find? other = register.find? other := by
  rw [find?_setStatus]
  cases found : register.find? other with
  | none => rfl
  | some event =>
      have same : event.key = other := ((find?_eq_some_iff register other event).1 found).2
      have unmoved : withStatus key next event = event := if_neg (same ▸ differs)
      rw [Option.map_some, unmoved]

/-- Every event of a register is in the later one, and stands as it can stand later on. -/
def Becomes (register later : Register) : Prop :=
  ∀ key event, register.find? key = some event →
    ∃ kept, later.find? key = some kept ∧ event.Becomes kept

theorem Becomes.refl (register : Register) : register.Becomes register :=
  fun _ event found => ⟨event, found, .refl event⟩

theorem Becomes.trans (first : register.Becomes next) (second : next.Becomes last) :
    register.Becomes last := by
  intro key event found
  obtain ⟨kept, there, becomes⟩ := first key event found
  obtain ⟨final, still, becomes'⟩ := second key kept there
  exact ⟨final, still, becomes.trans becomes'⟩

theorem becomes_setStatus {event : Event} (member : event ∈ register.events)
    (opened : event.status = .opened) {status : Status} (closed : status ≠ .opened) :
    register.Becomes (register.setStatus event.key status) := by
  intro key found there
  refine ⟨withStatus event.key status found, by rw [find?_setStatus, there]; rfl, ?_⟩
  by_cases same : found.key = event.key
  · obtain ⟨present, _⟩ := (find?_eq_some_iff register key found).1 there
    have whole : found = event := Keyed.eq_of_key register.distinct present member same
    rw [whole]
    exact becomes_withStatus opened closed event.key
  · rw [withStatus, if_neg same]
    exact .refl found

/-- Whatever a register is asked, it keeps its events, and closes an open one at most. -/
theorem becomes_serve (request : registry.Request) (register : Register) :
    register.Becomes (serve request register).2 := by
  cases request with
  | find key => exact .refl register
  | due now => exact .refl register
  | save event =>
      rcases save_cases register event with refused | ⟨larger, events, done⟩
      · simp only [serve, refused]
        exact .refl register
      · simp only [serve, done]
        intro key found there
        exact ⟨found, by rw [find?_append events, there]; rfl, .refl found⟩
  | update key expected next =>
      rcases update_cases register key expected next with
        ⟨event, member, rfl, opened, closed, done⟩ | ⟨_, unchanged, _⟩
      · simp only [serve, done]
        exact becomes_setStatus member opened closed
      · simp only [serve, unchanged]
        exact .refl register

/-- Whether a request takes one register to the other. -/
def Changes (register later : Register) : Prop :=
  ∃ request, later = (serve request register).2

theorem becomes_of_changes (changes : ReflTransGen Changes register last) :
    register.Becomes last := by
  induction changes with
  | refl => exact .refl register
  | tail _ change ih =>
      obtain ⟨request, rfl⟩ := change
      exact ih.trans (becomes_serve request _)

/-- An event that is closed is found as it is in every later register. -/
theorem stays_closed {event : Event} {key : EventKey} (found : register.find? key = some event)
    (closed : event.status ≠ .opened) (changes : ReflTransGen Changes register last) :
    last.find? key = some event := by
  obtain ⟨kept, still, becomes⟩ := becomes_of_changes changes key event found
  rw [still, becomes.eq_of_closed closed]

def Sound (register : Register) : Prop := ∀ event ∈ register.events, event.Sound

theorem sound_empty : empty.Sound := List.forall_mem_nil _

/-- A register holds sound events only, if only such are saved. -/
theorem Sound.serve (sound : register.Sound) (request : registry.Request)
    (saved : ∀ event, request = .save event → event.Sound) :
    (Register.serve request register).2.Sound := by
  cases request with
  | find key => exact sound
  | due now => exact sound
  | save event =>
      rcases save_cases register event with refused | ⟨larger, events, done⟩
      · simp only [Register.serve, refused]
        exact sound
      · simp only [Register.serve, done]
        intro other member
        rw [events, List.mem_append, List.mem_singleton] at member
        rcases member with earlier | rfl
        · exact sound other earlier
        · exact saved other rfl
  | update key expected next =>
      rcases update_cases register key expected next with ⟨_, _, _, _, _, done⟩ | ⟨_, unchanged, _⟩
      · simp only [Register.serve, done]
        intro later member
        obtain ⟨event, present, rfl⟩ := List.mem_map.1 member
        have kept := sound event present
        unfold withStatus
        split
        · exact kept
        · exact kept
      · simp only [Register.serve, unchanged]
        exact sound

end Register

end ClubOffice.Event
