import ClubOffice.Event.Register
import ClubOffice.Table.Server

/-!
# Events in a table

The register of events kept by a table server. The row of an event holds its five fields; a row is
read only if it makes a sound event.
-/

namespace ClubOffice.Table

open Event

def EventRow.ofEvent (event : Event) : EventRow :=
  ⟨event.key.uuid, event.title.text, event.startsAt, event.endsAt, event.status.word⟩

/-- Reads the event of a row. The status is looked at first. -/
def EventRow.read (row : EventRow) : Except Fault Event := do
  let status ← Status.read row.status
  Event.restore ⟨row.key⟩ ⟨row.title, row.startsAt, row.endsAt⟩ status

namespace Events

def save (event : Event) : Plan link (Except Fault Unit) :=
  finish (.insertEvent (.ofEvent event))
    (fun cause => .internal s!"failed to save club event '{event.key}': {cause}")
    fun _ => .ok ()

/-- Finds an event; of several rows the first counts. -/
def find (key : EventKey) : Plan link (Except Fault (Option Event)) :=
  finish (.selectEvent key.uuid)
    (fun cause => .internal s!"failed to find club event '{key}': {cause}")
    fun (rows : List EventRow) =>
      match rows with
      | [] => .ok none
      | row :: _ => some <$> row.read

def due (now : Time.Instant) : Plan link (Except Fault (List Event)) :=
  finish (.selectDue now)
    (fun cause => .internal s!"failed to list club events due for closing: {cause}")
    fun (rows : List EventRow) => rows.mapM EventRow.read

def cannotMove (expected next : Status) : Fault :=
  .validation s!"club event status cannot move from '{expected.word}' to '{next.word}'"

/-- Moves an event from an expected status to the next. A move that is not allowed is not tried. -/
def update (key : EventKey) (expected next : Status) : Plan link (Except Fault Bool) :=
  if expected.mayBecome next then
    finish (.updateStatus key.uuid expected.word next.word)
      (fun cause => .internal s!"failed to update status of club event '{key}': {cause}")
      fun (touched : Nat) => .ok (decide (0 < touched))
  else .done (.error (cannotMove expected next))

def perform : (request : registry.Request) → Plan link (registry.Reply request)
  | .save event => save event
  | .find key => find key
  | .due now => due now
  | .update key expected next => update key expected next

end Events

end ClubOffice.Table
