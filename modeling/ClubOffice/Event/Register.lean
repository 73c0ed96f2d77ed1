import ClubOffice.Event.Basic
import ClubOffice.Plan
import ClubOffice.Sorting

/-!
# The register of events

The register holds events by key. Events are added and change their status; they are never removed,
and nothing else about them changes. The interface says what can be asked of any register.
-/

namespace ClubOffice.Event

open Time

/-- What can be asked of a register. -/
inductive Registry.Request
  | save (event : Event)
  | find (key : EventKey)
  | due (now : Instant)
  | update (key : EventKey) (expected next : Status)
deriving DecidableEq

abbrev registry : Interface where
  Request := Registry.Request
  Reply
    | .save _ => Except Fault Unit
    | .find _ => Except Fault (Option Event)
    | .due _ => Except Fault (List Event)
    | .update _ _ _ => Except Fault Bool

/-- Events in the order in which they were added, no two with the same key. -/
structure Register where
  events : List Event
  distinct : (events.map (·.key)).Nodup

namespace Register

def empty : Register := ⟨[], .nil⟩

def find? (register : Register) (key : EventKey) : Option Event :=
  register.events.find? (·.key = key)

def taken (key : EventKey) : Fault := .conflict s!"club event '{key}' already exists"

/-- Adds an event whose key is not taken. -/
def save (register : Register) (event : Event) : Except Fault Register :=
  if h : event.key ∈ register.events.map (·.key) then .error (taken event.key)
  else .ok
    { events := register.events ++ [event]
      distinct := by
        rw [List.map_append, List.nodup_append]
        refine ⟨register.distinct, by simp, ?_⟩
        intro a member b last same
        rw [List.map_singleton, List.mem_singleton] at last
        exact h (last ▸ same ▸ member) }

/-- Which of two due events is listed first: the one that ends first, and of two that end together
the one with the smaller key. -/
def listedBefore (a b : Event) : Bool :=
  a.endsAt < b.endsAt || (a.endsAt ≤ b.endsAt && a.key.uuid.le b.key.uuid)

/-- The events that are due at a time, those that end first in front. -/
def due (register : Register) (now : Instant) : List Event :=
  sorted listedBefore (register.events.filter (·.isDue now))

theorem mem_due (register : Register) (now : Instant) (event : Event) :
    event ∈ register.due now ↔ event ∈ register.events ∧ event.isDue now = true := by
  rw [due, mem_sorted, List.mem_filter]

def withStatus (key : EventKey) (next : Status) (event : Event) : Event :=
  if event.key = key then { event with status := next } else event

theorem key_withStatus (key : EventKey) (next : Status) (event : Event) :
    (withStatus key next event).key = event.key := by
  unfold withStatus
  split <;> rfl

def setStatus (register : Register) (key : EventKey) (next : Status) : Register where
  events := register.events.map (withStatus key next)
  distinct := by
    have same : (fun event : Event => event.key) ∘ withStatus key next = fun event => event.key :=
      funext (key_withStatus key next)
    rw [List.map_map, same]
    exact register.distinct

/-- Moves the event of a key from an expected status to the next, and tells whether it did. It does
not if there is no such event or its status is another; a move that is not allowed is a fault. -/
def update (register : Register) (key : EventKey) (expected next : Status) :
    Except Fault Bool × Register :=
  match register.find? key with
  | none => (.ok false, register)
  | some event =>
      if event.status = expected then
        match event.moveTo next with
        | .ok _ => (.ok true, register.setStatus key next)
        | .error fault => (.error fault, register)
      else (.ok false, register)

def serve : Server registry Register
  | .save event, register =>
      match register.save event with
      | .ok register => (.ok (), register)
      | .error fault => (.error fault, register)
  | .find key, register => (.ok (register.find? key), register)
  | .due now, register => (.ok (register.due now), register)
  | .update key expected next, register => register.update key expected next

end Register

end ClubOffice.Event
