import ClubOffice.Sorting
import ClubOffice.Table.Server

/-!
# An ideal table of events

A server that does with its table of events what the statements say: rows are kept as they are
inserted, no two with the same key, and a guarded update touches a row only in the expected status.
It knows no other table.
-/

namespace ClubOffice.Table

/-- The rows of the table of events, in the order in which they were inserted. -/
structure EventTable where
  rows : List EventRow
deriving DecidableEq

namespace EventTable

def empty : EventTable := ⟨[]⟩

def duplicate : Failure :=
  .refused "duplicate key value violates unique constraint \"club_events_pkey\""

def insert (table : EventTable) (row : EventRow) : Except Failure Nat × EventTable :=
  if table.rows.any (·.key = row.key) then (.error duplicate, table)
  else (.ok 1, ⟨table.rows ++ [row]⟩)

/-- The open rows whose end has come, those that end first in front. -/
def due (table : EventTable) (now : Time.Instant) : List EventRow :=
  sorted (fun a b => a.endsAt ≤ b.endsAt)
    (table.rows.filter fun row => row.status = "open" && row.endsAt ≤ now)

def matching (key : Uuid) (status : String) (row : EventRow) : Bool :=
  row.key = key && row.status = status

def update (table : EventTable) (key : Uuid) (expected next : String) : Nat × EventTable :=
  (table.rows.countP (matching key expected),
    ⟨table.rows.map fun row =>
      if matching key expected row then { row with status := next } else row⟩)

def execute : (statement : Statement) → EventTable → Except Failure statement.Answer × EventTable
  | .insertEvent row, table => table.insert row
  | .selectEvent key, table => (.ok (table.rows.filter (·.key = key)), table)
  | .selectDue now, table => (.ok (table.due now), table)
  | .updateStatus key expected next, table =>
      let (touched, table) := table.update key expected next
      (.ok touched, table)
  | statement, table => (.ok statement.nothing, table)

/-- A table and the supply of identifiers answer requests. -/
def serve : Server link (EventTable × Supply)
  | .begin, state => (.ok (), state)
  | .commit, state => (.ok (), state)
  | .execute statement, (table, supply) =>
      let (answer, table) := table.execute statement
      (answer, (table, supply))
  | .freshId, (table, supply) => (supply.take.1, (table, supply.take.2))

end EventTable

end ClubOffice.Table
