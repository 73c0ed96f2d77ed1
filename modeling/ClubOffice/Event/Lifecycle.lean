import ClubOffice.Audit.Envelope
import ClubOffice.Event.Register

/-!
# The life of an event

Events are created and cancelled as audited operations. From time to time the open events whose end
has come are closed: the list of them is read once, and each is moved only if it is still open.
-/

namespace ClubOffice.Event

open Audit

def source : Source := ⟨⟨"events"⟩⟩

def creating : Operation := ⟨⟨"creating event"⟩, ⟨"event created"⟩, none, .info⟩

def cancelling : Operation :=
  ⟨⟨"cancelling event"⟩, ⟨"event cancelled"⟩, some ⟨"event cancellation failed"⟩, .info⟩

/-- The steps of a creation: the event is planned under a fresh key, and then saved. -/
def createSteps (draft : Draft) : Act registry Event := do
  let uuid ← Act.freshId
  let event ← Act.check (plan ⟨uuid⟩ draft)
  Act.ofPlan (.ask (.save event) .done)
  return event

def create (draft : Draft) : Act registry Event := audited source creating (createSteps draft)

def unknown (key : EventKey) : Fault := .notFound s!"event '{key}'"

def notCancellable (key : EventKey) : Fault :=
  .refused (.warning s!"event {key} cannot be cancelled")

/-- The steps of a cancellation: the event is read, and then moved if it is still open. -/
def cancelSteps (key : EventKey) : Act registry Event := do
  match ← Act.ofPlan (.ask (.find key) .done) with
  | none => Act.fail (unknown key)
  | some event =>
      if event.status = .opened then
        if ← Act.ofPlan (.ask (.update key .opened .cancelled) .done) then
          Act.check (event.moveTo .cancelled)
        else Act.fail (notCancellable key)
      else Act.fail (notCancellable key)

def cancel (key : EventKey) : Act registry Event := audited source cancelling (cancelSteps key)

/-- Moves each of the events from open to held, and counts those that were open. -/
def holdEach : List Event → Nat → Plan (registry.plus ambient) (Except Fault Nat)
  | [], held => .done (.ok held)
  | event :: rest, held =>
      .ask (.inl (.update event.key .opened .held)) fun
        | .ok true => holdEach rest (held + 1)
        | .ok false => holdEach rest held
        | .error fault => .done (.error fault)

/-- Closes the open events whose end has come, and tells how many it moved. -/
def closeElapsed : Plan (registry.plus ambient) (Except Fault Nat) :=
  .ask (.inr .now) fun now =>
    .ask (.inl (.due now)) fun
      | .ok candidates => holdEach (candidates.filter (·.isDue now)) 0
      | .error fault => .done (.error fault)

end ClubOffice.Event
