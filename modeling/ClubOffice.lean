import ClubOffice.Audit.ReadingRehearsal
import ClubOffice.Email.Json
import ClubOffice.Email.Rehearsal
import ClubOffice.Email.Relay
import ClubOffice.Job.Rehearsal
import ClubOffice.Job.Timer
import ClubOffice.Job.Upkeep
import ClubOffice.Json.Printer
import ClubOffice.Proofs.Audit.EnvelopeLaw
import ClubOffice.Proofs.Audit.Expiry
import ClubOffice.Proofs.Audit.Grouping
import ClubOffice.Proofs.Audit.ReadOrders
import ClubOffice.Proofs.Audit.SlotScoping
import ClubOffice.Proofs.Audit.Survival
import ClubOffice.Proofs.Audit.TrailIndependence
import ClubOffice.Proofs.Email.CanonicalAddress
import ClubOffice.Proofs.Email.Concurrency
import ClubOffice.Proofs.Email.Draining
import ClubOffice.Proofs.Email.Handling
import ClubOffice.Proofs.Event.Agreement
import ClubOffice.Proofs.Event.Closing
import ClubOffice.Proofs.Event.Concurrency
import ClubOffice.Proofs.Event.Counting
import ClubOffice.Proofs.Event.Lifetime
import ClubOffice.Proofs.Job.Answers
import ClubOffice.Proofs.Provenance
import ClubOffice.Proofs.Settings.Completeness
import ClubOffice.Proofs.Table.Claiming
import ClubOffice.Proofs.Table.Encoding
import ClubOffice.Proofs.Table.Limits
import ClubOffice.Proofs.Table.Mirroring
import ClubOffice.Proofs.Table.Paging
import ClubOffice.Proofs.Table.Seniority
import ClubOffice.Settings.Spelling
import ClubOffice.Table.Audits
import ClubOffice.Table.Emails
import ClubOffice.Table.Events
import ClubOffice.Table.Ideal
import ClubOffice.Table.Rehearsal
import ClubOffice.Uuid.Masking
