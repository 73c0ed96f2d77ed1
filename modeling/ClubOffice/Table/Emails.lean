import ClubOffice.Email.Queue
import ClubOffice.Sorting
import ClubOffice.Table.Server
import ClubOffice.Text.Numeral

/-!
# Emails in a table

The email queue kept by a table server. Numbers are looked at for their size before they are given
to the server, and the rows of a claim come in any order and are put in order of age.
-/

namespace ClubOffice.Table

open Email Text

def numberBound : Nat := Nat.pow 2 63

def smallBound : Nat := Nat.pow 2 31

/-- Checks the size of a number that is given to the server. -/
def fit (bound : Nat) (what : String) (n : Nat) : Except Fault Nat :=
  match checkBelow bound n with
  | .ok n => .ok n
  | .error flaw => .error (.validation s!"invalid email {what}: {flaw.message}")

def ClaimRow.badAttempts (row : ClaimRow) : Fault :=
  .internal s!"invalid attempts value for email '{row.key}': {NumeralFlaw.tooSmall.message}"

def ClaimRow.read (row : ClaimRow) : Except Fault Claimed :=
  if row.attempts < 0 then .error row.badAttempts
  else .ok ⟨⟨row.key⟩, row.recipient, row.subject, row.body, row.attempts.toNat, ⟨row.token⟩⟩

/-- The rows in order of age, rows of the same age in the order in which they came. -/
def oldestFirst (rows : List ClaimRow) : List ClaimRow :=
  sorted (fun a b => a.createdAt ≤ b.createdAt) rows

namespace Emails

def enqueue (letter : Letter) : Plan link (Except Fault EmailKey) :=
  .ask .freshId fun uuid =>
    finish (.insertEmail uuid letter.recipient.text letter.subject letter.body)
      (fun cause => .internal s!"failed to enqueue email: {cause}")
      fun _ => .ok ⟨uuid⟩

/-- Claims emails in a transaction of its own. The limits are checked once it has begun. -/
def claim (limit leaseSeconds : Nat) : Plan link (Except Fault (List Claimed)) :=
  .ask .begin fun
    | .error failure =>
        .done (.error (.internal
          s!"failed to start email claim transaction: {failure.message}"))
    | .ok () =>
        match fit numberBound "claim limit" limit, fit smallBound "lease_seconds" leaseSeconds with
        | .error fault, _ => .done (.error fault)
        | .ok _, .error fault => .done (.error fault)
        | .ok limit, .ok leaseSeconds =>
            query (.claimEmails limit leaseSeconds)
              (fun cause => .internal s!"failed to claim queued emails: {cause}")
              fun rows =>
                .ask .commit fun
                  | .error failure =>
                      .done (.error (.internal
                        s!"failed to commit email claim transaction: {failure.message}"))
                  | .ok () => .done ((oldestFirst rows).mapM ClaimRow.read)

def markSent (key : EmailKey) (token : ClaimToken) : Plan link (Except Fault Bool) :=
  finish (.markSent key.uuid token.uuid)
    (fun cause => .internal s!"failed to mark email '{key}' as sent: {cause}")
    fun (touched : Nat) => .ok (decide (0 < touched))

/-- Notes a failed attempt; of several rows the first counts. -/
def recordFailure (key : EmailKey) (token : ClaimToken) (reason : String) (maxAttempts : Nat) :
    Plan link (Except Fault (Option Email.Status)) :=
  match fit smallBound "max_attempts" maxAttempts with
  | .error fault => .done (.error fault)
  | .ok maxAttempts =>
      finish (.recordFailure key.uuid token.uuid reason maxAttempts)
        (fun cause =>
          .internal s!"failed to record delivery failure for email '{key}': {cause}")
        fun (words : List String) =>
          match words with
          | [] => .ok none
          | word :: _ => some <$> Email.Status.read word

end Emails

end ClubOffice.Table
