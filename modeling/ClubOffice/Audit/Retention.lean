import ClubOffice.Audit.Trail
import ClubOffice.Plan

/-!
# Reading the trail and keeping it short

Entries are kept for a number of days. The keeper of the trail reads it for operators and removes
what is too old, through the calls of an interface, so that any store of entries can be behind it.
-/

namespace ClubOffice.Audit

open Time

/-- What can be asked of a store of entries. -/
inductive Archive.Request
  | now
  | page (query : Query)
  | trace (trace : TraceKey)
  | purge (cutoff : Instant)
deriving DecidableEq

abbrev archive : Interface where
  Request := Archive.Request
  Reply
    | .now => Instant
    | .page _ => Except Fault (List Entry)
    | .trace _ => Except Fault (List Entry)
    | .purge _ => Except Fault Nat

/-- For how many days entries are kept. -/
structure Retention where
  days : Nat
  pos : 0 < days
  le_longest : days ≤ 36500
deriving DecidableEq

namespace Retention

def standardDays : Nat := 30

def longestDays : Nat := 36500

def tooShort : Fault := .validation "audit retention must be at least one day"

def tooLong (days : Nat) : Fault :=
  .validation s!"audit retention must not exceed {longestDays} days, got {days}"

def make (days : Nat) : Except Fault Retention :=
  if pos : days = 0 then .error tooShort
  else if long : longestDays < days then .error (tooLong days)
  else .ok ⟨days, Nat.pos_of_ne_zero pos, Nat.not_lt.1 long⟩

/-- What is said when the calendar does not go back far enough. -/
def beforeCalendar (retention : Retention) : Fault :=
  .internal s!"audit retention of {retention.days} days reaches before the earliest timestamp"

/-- The time before which entries are too old. -/
def cutoff (retention : Retention) (now : Instant) : Except Fault Instant :=
  match now.daysBefore? retention.days with
  | some cutoff => .ok cutoff
  | none => .error retention.beforeCalendar

/-- Removes what is too old, and tells how much that was. The cutoff is fixed at the start. -/
def cleanup (retention : Retention) : Plan archive (Except Fault Nat) :=
  .ask .now fun now =>
    match retention.cutoff now with
    | .ok cutoff => .ask (.purge cutoff) .done
    | .error fault => .done (.error fault)

end Retention

def recent (query : Query) : Plan archive (Except Fault (List Entry)) :=
  .ask (.page { query with limit := Query.pageSize query.limit }) .done

def invocation (trace : TraceKey) : Plan archive (Except Fault (List Entry)) :=
  .ask (.trace trace) .done

/-- A trail as a store of entries, at a fixed time. -/
def Trail.serve (now : Instant) : Server archive Trail
  | .now, trail => (now, trail)
  | .page query, trail => (.ok (trail.page query), trail)
  | .trace trace, trail => (.ok (trail.ofTrace trace), trail)
  | .purge cutoff, trail => (.ok (trail.purged cutoff), trail.purge cutoff)

end ClubOffice.Audit
