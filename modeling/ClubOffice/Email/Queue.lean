import ClubOffice.Email.Address
import ClubOffice.Key
import ClubOffice.Label
import ClubOffice.Plan

/-!
# The email queue

Emails wait in the queue in the order in which they came. A claim leases some of the waiting ones
under fresh tokens, and only the holder of the token can say how the delivery went. A lease can
lapse at any time, after which the email can be claimed again.
-/

namespace ClubOffice.Email

/-- How a queued email stands. -/
inductive Status
  | pending
  | sent
  | failed
deriving DecidableEq, Repr

namespace Status

def word : Status → String
  | .pending => "pending"
  | .sent => "sent"
  | .failed => "failed"

def all : List Status := [.pending, .sent, .failed]

def ofWord? (word : String) : Option Status := all.find? (·.word = word)

theorem ofWord?_word (status : Status) : ofWord? status.word = some status := by
  cases status <;> rfl

def read (word : String) : Except Fault Status :=
  match ofWord? word with
  | some status => .ok status
  | none => .error (.validation s!"unknown queued email status '{word}'")

end Status

structure Letter where
  recipient : Address
  subject : String
  body : String
deriving DecidableEq, Repr

/-- Makes a letter. The recipient is looked at first, then the subject, which must say something;
the body may be anything. -/
def Letter.make (recipient subject body : String) : Except Fault Letter :=
  match Address.make recipient with
  | .error flaw => .error flaw.fault
  | .ok recipient =>
      match Label.make subject with
      | .error fault => .error fault
      | .ok subject => .ok ⟨recipient, subject.text, body⟩

/-- A claimed email, with the number of attempts before the claim. -/
structure Claimed where
  key : EmailKey
  recipient : String
  subject : String
  body : String
  attempts : Nat
  token : ClaimToken
deriving DecidableEq, Repr

/-- What can be asked of a queue and of a way to deliver. -/
inductive Post.Request
  | enqueue (letter : Letter)
  | claim (limit leaseSeconds : Nat)
  | send (recipient subject body : String) (html : Option String)
  | markSent (key : EmailKey) (token : ClaimToken)
  | recordFailure (key : EmailKey) (token : ClaimToken) (reason : String) (maxAttempts : Nat)
deriving DecidableEq

abbrev post : Interface where
  Request := Post.Request
  Reply
    | .enqueue _ => Except Fault EmailKey
    | .claim _ _ => Except Fault (List Claimed)
    | .send _ _ _ _ => Except Fault Unit
    | .markSent _ _ => Except Fault Bool
    | .recordFailure _ _ _ _ => Except Fault (Option Status)

/-- An email in the queue, with the token of the claim it is leased to. -/
structure Row where
  key : EmailKey
  letter : Letter
  status : Status
  attempts : Nat
  lastError : Option String
  token : Option ClaimToken
deriving DecidableEq

namespace Row

def fresh (key : EmailKey) (letter : Letter) : Row := ⟨key, letter, .pending, 0, none, none⟩

def claimable (row : Row) : Bool := row.status = .pending && row.token = none

/-- Whether the token is the one that the waiting email is leased to. -/
def heldBy (row : Row) (token : ClaimToken) : Bool :=
  row.status = .pending && row.token = some token

def claimed (row : Row) (token : ClaimToken) : Claimed :=
  ⟨row.key, row.letter.recipient.text, row.letter.subject, row.letter.body, row.attempts, token⟩

def delivered (row : Row) : Row := { row with status := .sent, token := none }

def attempted (row : Row) (reason : String) (maxAttempts : Nat) : Row :=
  { row with
    status := if maxAttempts ≤ row.attempts + 1 then .failed else .pending
    attempts := row.attempts + 1
    lastError := some reason
    token := none }

end Row

structure Queue where
  rows : List Row
deriving DecidableEq

namespace Queue

def empty : Queue := ⟨[]⟩

def enqueue (queue : Queue) (key : EmailKey) (letter : Letter) : Queue :=
  ⟨queue.rows ++ [.fresh key letter]⟩

/-- Leases the first `limit` rows that can be claimed, each under the next fresh token. -/
def claimRows : Nat → List Row → Supply → List Claimed × List Row × Supply
  | _, [], supply => ([], [], supply)
  | 0, rows, supply => ([], rows, supply)
  | limit + 1, row :: rest, supply =>
      if row.claimable then
        let token : ClaimToken := ⟨supply.take.1⟩
        let (claimed, rest, left) := claimRows limit rest supply.take.2
        (row.claimed token :: claimed, { row with token := some token } :: rest, left)
      else
        let (claimed, rest, left) := claimRows (limit + 1) rest supply
        (claimed, row :: rest, left)

/-- Claims up to `limit` emails, oldest first. -/
def claim (queue : Queue) (limit : Nat) (supply : Supply) : List Claimed × Queue × Supply :=
  let (claimed, rows, left) := claimRows limit queue.rows supply
  (claimed, ⟨rows⟩, left)

def find? (queue : Queue) (key : EmailKey) : Option Row := queue.rows.find? (·.key = key)

def change (queue : Queue) (key : EmailKey) (change : Row → Row) : Queue :=
  ⟨queue.rows.map fun row => if row.key = key then change row else row⟩

def unknown (key : EmailKey) : Fault := .notFound s!"email '{key}'"

/-- Notes that an email was delivered, if it is still leased to the token. -/
def markSent (queue : Queue) (key : EmailKey) (token : ClaimToken) : Except Fault Bool × Queue :=
  match queue.find? key with
  | none => (.error (unknown key), queue)
  | some row =>
      if row.heldBy token then (.ok true, queue.change key Row.delivered)
      else (.ok false, queue)

/-- Notes a failed attempt, if the email is still leased to the token, and tells how it stands
then. -/
def recordFailure (queue : Queue) (key : EmailKey) (token : ClaimToken) (reason : String)
    (maxAttempts : Nat) : Except Fault (Option Status) × Queue :=
  match queue.find? key with
  | none => (.error (unknown key), queue)
  | some row =>
      if row.heldBy token then
        (.ok (some (row.attempted reason maxAttempts).status),
          queue.change key (·.attempted reason maxAttempts))
      else (.ok none, queue)

def expire (queue : Queue) : Queue := ⟨queue.rows.map fun row => { row with token := none }⟩

/-- Leases every leased row anew, each under the next fresh token. -/
def stealRows : List Row → Supply → List Row × Supply
  | [], supply => ([], supply)
  | row :: rest, supply =>
      if row.token.isSome then
        let (rest, left) := stealRows rest supply.take.2
        ({ row with token := some ⟨supply.take.1⟩ } :: rest, left)
      else
        let (rest, left) := stealRows rest supply
        (row :: rest, left)

def steal (queue : Queue) (supply : Supply) : Queue × Supply :=
  let (rows, left) := stealRows queue.rows supply
  (⟨rows⟩, left)

end Queue

end ClubOffice.Email
