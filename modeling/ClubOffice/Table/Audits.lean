import ClubOffice.Audit.Retention
import ClubOffice.Table.Server

/-!
# Audited events in a table

The audit trail kept by a table server.
-/

namespace ClubOffice.Table

open Audit

/-- The row of a record, under the key that it was given. -/
def AuditRow.ofRecord (key : Uuid) (record : Record) : AuditRow :=
  ⟨key, record.trace.uuid, record.source.name, record.message, record.severity.word, record.time⟩

def AuditRow.read (row : AuditRow) : Except Fault Entry := do
  let severity ← Severity.read row.severity
  return ⟨⟨row.key⟩, ⟨row.trace⟩, row.source, row.message, severity, row.time⟩

namespace Audits

def append (record : Record) : Plan link (Except Fault Unit) :=
  finish
    (.insertAudit record.trace.uuid record.source.name record.message record.severity.word
      record.time)
    (fun cause =>
      .internal s!"failed to append audit event for trace '{record.trace}': {cause}")
    fun _ => .ok ()

/-- The largest offset that is asked for. -/
def maxOffset : Nat := 10000

/-- The words of the severities from the given one on. -/
def wordsFrom (least : Severity) : List String :=
  (Severity.all.filter (least ≤ ·)).map Severity.word

def page (query : Query) : Plan link (Except Fault (List Entry)) :=
  finish
    (.selectPage query.source (query.atLeast.map wordsFrom) (Query.pageSize query.limit)
      (min query.offset maxOffset))
    (fun cause => .internal s!"failed to list audit events: {cause}")
    fun (rows : List AuditRow) => rows.mapM AuditRow.read

def trace (trace : TraceKey) : Plan link (Except Fault (List Entry)) :=
  finish (.selectTrace trace.uuid)
    (fun cause => .internal s!"failed to list audit events for trace '{trace}': {cause}")
    fun (rows : List AuditRow) => rows.mapM AuditRow.read

def purge (cutoff : Time.Instant) : Plan link (Except Fault Nat) :=
  finish (.deleteBefore cutoff)
    (fun cause =>
      .internal s!"failed to purge audit events older than '{cutoff.withOffset}': {cause}")
    fun (touched : Nat) => .ok touched

end Audits

end ClubOffice.Table
