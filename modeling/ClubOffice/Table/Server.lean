import ClubOffice.Audit.Trail
import ClubOffice.Email.Queue
import ClubOffice.Event.Basic
import ClubOffice.Plan

/-!
# The table server

Tables kept by a server are reached by statements. A statement has a verb and parameters, and is
answered with rows or with the number of rows that it touched. The server may refuse a statement,
and it may be out of reach.
-/

namespace ClubOffice.Table

open Time

inductive Failure
  | refused (message : String)
  | unreachable (cause : String)
deriving DecidableEq, Repr

def Failure.message : Failure → String
  | .refused message => "error returned from database: " ++ message
  | .unreachable cause => "error communicating with database: " ++ cause

structure EventRow where
  key : Uuid
  title : String
  startsAt : Instant
  endsAt : Instant
  status : String
deriving DecidableEq

structure AuditRow where
  key : Uuid
  trace : Uuid
  source : String
  message : String
  severity : String
  time : Instant
deriving DecidableEq

/-- A row of the table of queued emails, as a claim gives it out. -/
structure ClaimRow where
  key : Uuid
  recipient : String
  subject : String
  body : String
  attempts : Int
  token : Uuid
  createdAt : Instant
deriving DecidableEq

inductive Parameter
  | null
  | uuid (value : Uuid)
  | text (value : String)
  | time (value : Instant)
  | number (value : Nat)
  | texts (values : List String)
deriving DecidableEq

/-- The statements, by what they do, with their parameters. -/
inductive Statement
  | insertEvent (row : EventRow)
  | selectEvent (key : Uuid)
  | selectDue (now : Instant)
  | updateStatus (key : Uuid) (expected next : String)
  | insertAudit (trace : Uuid) (source message severity : String) (time : Instant)
  | selectPage (source : Option String) (severities : Option (List String)) (limit offset : Nat)
  | selectTrace (trace : Uuid)
  | deleteBefore (cutoff : Instant)
  | insertEmail (key : Uuid) (recipient subject body : String)
  | claimEmails (limit leaseSeconds : Nat)
  | markSent (key token : Uuid)
  | recordFailure (key token : Uuid) (reason : String) (maxAttempts : Nat)
deriving DecidableEq

namespace Statement

def verb : Statement → String
  | .insertEvent _ | .insertAudit _ _ _ _ _ | .insertEmail _ _ _ _ => "INSERT"
  | .selectEvent _ | .selectDue _ | .selectPage _ _ _ _ | .selectTrace _ => "SELECT"
  | .updateStatus _ _ _ | .markSent _ _ | .recordFailure _ _ _ _ => "UPDATE"
  | .deleteBefore _ => "DELETE"
  | .claimEmails _ _ => "WITH"

def optional {α : Type} (parameter : α → Parameter) : Option α → Parameter
  | none => .null
  | some value => parameter value

def parameters : Statement → List Parameter
  | .insertEvent row =>
      [.uuid row.key, .text row.title, .time row.startsAt, .time row.endsAt, .text row.status]
  | .selectEvent key => [.uuid key]
  | .selectDue now => [.time now]
  | .updateStatus key expected next => [.uuid key, .text expected, .text next]
  | .insertAudit trace source message severity time =>
      [.uuid trace, .text source, .text message, .text severity, .time time]
  | .selectPage source severities limit offset =>
      [optional .text source, optional .texts severities, .number limit, .number offset]
  | .selectTrace trace => [.uuid trace]
  | .deleteBefore cutoff => [.time cutoff]
  | .insertEmail key recipient subject body =>
      [.uuid key, .text recipient, .text subject, .text body]
  | .claimEmails limit leaseSeconds => [.number limit, .number leaseSeconds]
  | .markSent key token => [.uuid key, .uuid token]
  | .recordFailure key token reason maxAttempts =>
      [.uuid key, .uuid token, .text reason, .number maxAttempts]

/-- What a statement is answered with: its rows, or the number of rows that it touched. -/
def Answer : Statement → Type
  | .selectEvent _ | .selectDue _ => List EventRow
  | .selectPage _ _ _ _ | .selectTrace _ => List AuditRow
  | .claimEmails _ _ => List ClaimRow
  | .recordFailure _ _ _ _ => List String
  | .insertEvent _ | .updateStatus _ _ _ | .insertAudit _ _ _ _ _ | .deleteBefore _
  | .insertEmail _ _ _ _ | .markSent _ _ => Nat

/-- The answer that finds nothing and touches nothing. -/
def nothing : (statement : Statement) → statement.Answer
  | .selectEvent _ | .selectDue _ => ([] : List EventRow)
  | .selectPage _ _ _ _ | .selectTrace _ => ([] : List AuditRow)
  | .claimEmails _ _ => ([] : List ClaimRow)
  | .recordFailure _ _ _ _ => ([] : List String)
  | .insertEvent _ | .updateStatus _ _ _ | .insertAudit _ _ _ _ _ | .deleteBefore _
  | .insertEmail _ _ _ _ | .markSent _ _ => (0 : Nat)

end Statement

/-- What can be asked of the server: a transaction can be begun and committed, and a statement
executed. A fresh identifier does not come from the server, but is asked for in the same way. -/
inductive Request
  | begin
  | commit
  | execute (statement : Statement)
  | freshId
deriving DecidableEq

abbrev link : Interface where
  Request := Request
  Reply
    | .begin => Except Failure Unit
    | .commit => Except Failure Unit
    | .execute statement => Except Failure statement.Answer
    | .freshId => Uuid

/-- Executes a statement and goes on with its answer; a failure becomes a fault. -/
def query {α : Type} (statement : Statement) (fault : String → Fault)
    (next : statement.Answer → Plan link (Except Fault α)) : Plan link (Except Fault α) :=
  .ask (.execute statement) fun
    | .ok answer => next answer
    | .error failure => .done (.error (fault failure.message))

/-- Executes a statement and ends with a result made of its answer. -/
def finish {α : Type} (statement : Statement) (fault : String → Fault)
    (result : statement.Answer → Except Fault α) : Plan link (Except Fault α) :=
  query statement fault fun answer => .done (result answer)

end ClubOffice.Table
