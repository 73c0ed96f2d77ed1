import ClubOffice.Audit.Retention
import ClubOffice.Email.Flush
import ClubOffice.Event.Lifecycle
import ClubOffice.Job.Basic

/-!
# The upkeep of the office

The three jobs: closing events whose end has come, delivering the email queue, and removing old
entries from the audit trail.
-/

namespace ClubOffice.Job

def minute : Nat := 60 * 1000

def day : Nat := 24 * 60 * minute

inductive Upkeep
  | closing
  | email
  | cleanup
deriving DecidableEq, Repr

namespace Upkeep

def name : Upkeep → String
  | .closing => "closing_event_schedule"
  | .email => "email_queue_schedule"
  | .cleanup => "audit_trail_cleanup_schedule"

def schedule : Upkeep → Schedule
  | .closing => ⟨30 * minute, none⟩
  | .email => ⟨15 * minute, none⟩
  | .cleanup => ⟨day, some day⟩

end Upkeep

def ofClosing (result : Except Fault Nat) : Ending := .ofExcept result

def ofFlush (result : Except Fault Email.Tally) : Ending := .ofExcept (result.map (·.sent))

def ofCleanup (result : Except Fault Nat) : Ending := .ofExcept result

end ClubOffice.Job
