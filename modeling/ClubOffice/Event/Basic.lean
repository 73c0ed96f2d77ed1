import ClubOffice.Key
import ClubOffice.Label
import ClubOffice.Time.Written

/-!
# Club events

An event has a title and a planned start and end. It is open until it is held or cancelled, and
stays held or cancelled from then on.
-/

namespace ClubOffice

open Time

/-- How an event stands. -/
inductive Event.Status
  | opened
  | held
  | cancelled
deriving DecidableEq, Repr

namespace Event.Status

def word : Status → String
  | .opened => "open"
  | .held => "held"
  | .cancelled => "cancelled"

def all : List Status := [.opened, .held, .cancelled]

def ofWord? (word : String) : Option Status := all.find? (·.word = word)

theorem ofWord?_word (status : Status) : ofWord? status.word = some status := by
  cases status <;> rfl

def read (word : String) : Except Fault Status :=
  match ofWord? word with
  | some status => .ok status
  | none => .error (.validation s!"unknown club event status '{word}'")

/-- Whether an event may go from one status to the other: only an open one goes anywhere. -/
def mayBecome (status next : Status) : Bool := status = .opened && next ≠ .opened

theorem mayBecome_iff (status next : Status) :
    status.mayBecome next = true ↔ status = .opened ∧ (next = .held ∨ next = .cancelled) := by
  cases status <;> cases next <;> decide

end Event.Status

/-- What is given to plan an event. -/
structure Event.Draft where
  title : String
  startsAt : Instant
  endsAt : Instant
deriving DecidableEq

/-- A club event. -/
structure Event where
  key : EventKey
  title : Label
  startsAt : Instant
  endsAt : Instant
  status : Event.Status
deriving DecidableEq

namespace Event

/-- Whether the title says something and the end does not precede the start. -/
def Sound (event : Event) : Prop := event.title.Sound ∧ event.startsAt ≤ event.endsAt

instance (event : Event) : Decidable event.Sound := inferInstanceAs (Decidable (_ ∧ _))

def endsTooEarly (draft : Draft) : Fault :=
  .validation s!"event end '{draft.endsAt}' must not precede its start '{draft.startsAt}'"

/-- An event as it is known to stand. The times are looked at before the title. -/
def restore (key : EventKey) (draft : Draft) (status : Status) : Except Fault Event :=
  if draft.endsAt < draft.startsAt then .error (endsTooEarly draft)
  else (fun title => ⟨key, title, draft.startsAt, draft.endsAt, status⟩) <$> Label.make draft.title

def plan (key : EventKey) (draft : Draft) : Except Fault Event := restore key draft .opened

theorem status_plan {key : EventKey} {draft : Draft} {event : Event}
    (planned : plan key draft = .ok event) : event.status = .opened := by
  unfold plan restore at planned
  split at planned
  · cases planned
  · cases made : Label.make draft.title with
    | error fault =>
        rw [made] at planned
        cases planned
    | ok title =>
        rw [made] at planned
        cases planned
        rfl

/-- What an event would be planned from. -/
def draft (event : Event) : Draft := ⟨event.title.text, event.startsAt, event.endsAt⟩

def cannotMove (event : Event) (next : Status) : Fault :=
  .conflict s!"event '{event.key}' cannot move from '{event.status.word}' to '{next.word}'"

/-- The event with another status, if it may take it. -/
def moveTo (event : Event) (next : Status) : Except Fault Event :=
  if event.status.mayBecome next then .ok { event with status := next }
  else .error (event.cannotMove next)

def hasElapsed (event : Event) (now : Instant) : Bool := event.endsAt ≤ now

def isDue (event : Event) (now : Instant) : Bool :=
  event.status = .opened && event.hasElapsed now

theorem isDue_iff (event : Event) (now : Instant) :
    event.isDue now = true ↔ event.status = .opened ∧ event.endsAt ≤ now := by
  simp [isDue, hasElapsed]

theorem isDue_eq_decide (event : Event) (now : Instant) :
    event.isDue now = decide (event.status = .opened ∧ event.endsAt ≤ now) := by
  rw [Bool.eq_iff_iff, isDue_iff, decide_eq_true_iff]

end Event

end ClubOffice
