import ClubOffice.Audit.Operation
import ClubOffice.Key
import ClubOffice.Sorting
import ClubOffice.Time.Written

/-!
# The audit trail

The trail is the list of entries in the order in which they were written. It is read newest
first, a page at a time, or oldest first for the entries of one trace; of entries with the same
time, the one written later counts as newer. Entries are removed by age only.
-/

namespace ClubOffice.Audit

open Time

structure Record where
  trace : TraceKey
  source : Source
  message : String
  severity : Severity
  time : Instant
deriving DecidableEq

structure Entry where
  key : EntryKey
  trace : TraceKey
  source : String
  message : String
  severity : Severity
  time : Instant
deriving DecidableEq

def Entry.ofRecord (key : EntryKey) (record : Record) : Entry :=
  ⟨key, record.trace, record.source.name, record.message, record.severity, record.time⟩

/-- Which entries to show, and which page of them. -/
structure Query where
  limit : Nat
  offset : Nat
  source : Option String
  atLeast : Option Severity
deriving DecidableEq, Repr

namespace Query

/-- The first page of all entries. -/
def standard : Query := ⟨50, 0, none, none⟩

def maxLimit : Nat := 500

/-- The number of entries on a page that was asked to have `limit` of them. -/
def pageSize (limit : Nat) : Nat := max 1 (min limit maxLimit)

def selects (query : Query) (entry : Entry) : Bool :=
  query.source.all (entry.source = ·) && query.atLeast.all (· ≤ entry.severity)

end Query

/-- The entries, in the order in which they were written. -/
structure Trail where
  entries : List Entry
deriving DecidableEq

namespace Trail

def empty : Trail := ⟨[]⟩

def size (trail : Trail) : Nat := trail.entries.length

def append (trail : Trail) (entry : Entry) : Trail := ⟨trail.entries ++ [entry]⟩

/-- Every entry that a query asks for, newest first. -/
def newestFirst (trail : Trail) (query : Query) : List Entry :=
  sorted (fun a b => b.time ≤ a.time) (trail.entries.reverse.filter query.selects)

/-- The page that a query asks for, newest first. -/
def page (trail : Trail) (query : Query) : List Entry :=
  ((trail.newestFirst query).drop query.offset).take (Query.pageSize query.limit)

/-- The entries of a trace, oldest first. -/
def ofTrace (trail : Trail) (trace : TraceKey) : List Entry :=
  sorted (fun a b => a.time ≤ b.time) (trail.entries.filter (·.trace = trace))

/-- The trail without the entries before the cutoff. -/
def purge (trail : Trail) (cutoff : Instant) : Trail :=
  ⟨trail.entries.filter (cutoff ≤ ·.time)⟩

def purged (trail : Trail) (cutoff : Instant) : Nat := trail.size - (trail.purge cutoff).size

theorem entries_append (trail : Trail) (entry : Entry) :
    (trail.append entry).entries = trail.entries ++ [entry] := rfl

theorem mem_newestFirst (trail : Trail) (query : Query) (entry : Entry) :
    entry ∈ trail.newestFirst query ↔ entry ∈ trail.entries ∧ query.selects entry = true := by
  rw [newestFirst, mem_sorted, List.mem_filter, List.mem_reverse]

theorem mem_ofTrace (trail : Trail) (trace : TraceKey) (entry : Entry) :
    entry ∈ trail.ofTrace trace ↔ entry ∈ trail.entries ∧ entry.trace = trace := by
  rw [ofTrace, mem_sorted, List.mem_filter, decide_eq_true_iff]

theorem mem_purge (trail : Trail) (cutoff : Instant) (entry : Entry) :
    entry ∈ (trail.purge cutoff).entries ↔ entry ∈ trail.entries ∧ cutoff ≤ entry.time := by
  simp [purge]

end Trail

end ClubOffice.Audit
