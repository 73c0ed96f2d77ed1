import ClubOffice.Plan.Transcript
import ClubOffice.Proofs.Table.Limits
import ClubOffice.Table.Rehearsal

/-!
# Claims that fail

A claim reads the rows that it was answered with only after its transaction was committed. Whatever
else goes wrong, no commit has been acknowledged when a claim fails. But a negative number of
attempts in one of the rows makes the claim fail although it was committed, and all of its emails
stay leased by a claim whose caller never saw them.
-/

namespace ClubOffice.Table

open Email

theorem ClaimRow.read_eq_error_iff {row : ClaimRow} {fault : Fault} :
    row.read = .error fault ↔ row.attempts < 0 ∧ fault = row.badAttempts := by
  unfold ClaimRow.read
  split
  · rename_i negative
    exact ⟨fun same => ⟨negative, (Except.error.inj same).symm⟩, fun ⟨_, same⟩ => same ▸ rfl⟩
  · rename_i counted
    exact ⟨fun same => (nomatch same), fun ⟨negative, _⟩ => absurd negative counted⟩

theorem ClaimRow.read_fails_iff (row : ClaimRow) :
    (∃ fault, row.read = .error fault) ↔ row.attempts < 0 := by
  simp only [read_eq_error_iff, exists_and_left, exists_eq, and_true]

namespace Emails

variable {σ : Type} {limit leaseSeconds : Nat}

/-- What the server was told, with its answers, if a claim of the rows was committed. -/
def carriedOut (limit leaseSeconds : Nat) (rows : List ClaimRow) : List (Exchange link) :=
  [⟨.begin, .ok ()⟩, ⟨.execute (.claimEmails limit leaseSeconds), .ok rows⟩, ⟨.commit, .ok ()⟩]

/-- How a claim can go: what it tells the server, with the answers, and what it ends with. -/
inductive Goes (limit leaseSeconds : Nat) :
    List (Exchange link) → Except Fault (List Claimed) → Prop
  | notBegun (failure : Failure) :
      Goes limit leaseSeconds [⟨.begin, .error failure⟩]
        (.error (.internal s!"failed to start email claim transaction: {failure.message}"))
  | tooMany (beyond : numberBound ≤ limit) :
      Goes limit leaseSeconds [⟨.begin, .ok ()⟩] (.error (tooLarge "claim limit"))
  | tooLong (below : limit < numberBound) (beyond : smallBound ≤ leaseSeconds) :
      Goes limit leaseSeconds [⟨.begin, .ok ()⟩] (.error (tooLarge "lease_seconds"))
  | notExecuted (failure : Failure) :
      Goes limit leaseSeconds
        [⟨.begin, .ok ()⟩, ⟨.execute (.claimEmails limit leaseSeconds), .error failure⟩]
        (.error (.internal s!"failed to claim queued emails: {failure.message}"))
  | notCommitted (rows : List ClaimRow) (failure : Failure) :
      Goes limit leaseSeconds
        [⟨.begin, .ok ()⟩, ⟨.execute (.claimEmails limit leaseSeconds), .ok rows⟩,
          ⟨.commit, .error failure⟩]
        (.error (.internal s!"failed to commit email claim transaction: {failure.message}"))
  | committed (rows : List ClaimRow) :
      Goes limit leaseSeconds (carriedOut limit leaseSeconds rows)
        ((oldestFirst rows).mapM ClaimRow.read)

theorem goes_claim (serve : Server link σ) (state : σ) (limit leaseSeconds : Nat) :
    Goes limit leaseSeconds ((claim limit leaseSeconds).transcript serve state)
      ((claim limit leaseSeconds).run serve state).1 := by
  simp only [claim, Plan.transcript, Plan.run]
  generalize serve .begin state = begun
  obtain ⟨failure | ⟨⟩, state⟩ := begun
  · exact .notBegun failure
  -- The numbers are looked at once the transaction has begun, the limit before the lease.
  by_cases below : limit < numberBound
  · by_cases short : leaseSeconds < smallBound
    · simp only [fit_of_lt below, fit_of_lt short, query, Plan.transcript, Plan.run]
      generalize serve (.execute (.claimEmails limit leaseSeconds)) state = executed
      obtain ⟨failure | rows, state⟩ := executed
      · exact .notExecuted failure
      simp only [Plan.transcript, Plan.run]
      generalize serve .commit state = ended
      obtain ⟨failure | ⟨⟩, state⟩ := ended
      · exact .notCommitted rows failure
      · exact .committed rows
    · rw [fit_of_lt below, fit_of_le (Nat.not_lt.1 short)]
      exact .tooLong below (Nat.not_lt.1 short)
  · rw [fit_of_le (Nat.not_lt.1 below)]
    exact .tooMany (Nat.not_lt.1 below)

/-- Whether the server has said that a transaction is committed. -/
def Acknowledged (asked : List (Exchange link)) : Prop := ⟨.commit, .ok ()⟩ ∈ asked

variable {asked : List (Exchange link)} {result : Except Fault (List Claimed)}

/-- A claim that was acknowledged has been carried out, and ends with what its rows are read as. -/
theorem Goes.of_acknowledged (goes : Goes limit leaseSeconds asked result)
    (acknowledged : Acknowledged asked) :
    ∃ rows, asked = carriedOut limit leaseSeconds rows ∧
      result = (oldestFirst rows).mapM ClaimRow.read := by
  cases goes with
  | committed rows => exact ⟨rows, rfl, rfl⟩
  | notBegun | tooMany | tooLong | notExecuted | notCommitted => simp [Acknowledged] at acknowledged

theorem Goes.result_carriedOut {rows : List ClaimRow}
    (goes : Goes limit leaseSeconds (carriedOut limit leaseSeconds rows) result) :
    result = (oldestFirst rows).mapM ClaimRow.read := by
  cases goes
  rfl

/-- A claim that was answered with rows asks for its commit. If that is refused it ends with a
fault, otherwise with what the rows are read as. -/
theorem Goes.of_answered {rows : List ClaimRow} (goes : Goes limit leaseSeconds asked result)
    (answered : ⟨.execute (.claimEmails limit leaseSeconds), .ok rows⟩ ∈ asked) :
    ∃ reply : Except Failure Unit,
      asked = [⟨.begin, .ok ()⟩, ⟨.execute (.claimEmails limit leaseSeconds), .ok rows⟩,
        ⟨.commit, reply⟩] ∧
      result = match reply with
        | .error failure =>
            .error (.internal s!"failed to commit email claim transaction: {failure.message}")
        | .ok () => (oldestFirst rows).mapM ClaimRow.read := by
  -- Of what a claim tells the server, only the second exchange can be the answered statement.
  cases goes with
  | notCommitted _ failure =>
      obtain _ | ⟨_, _ | ⟨_, _ | ⟨_, ⟨⟩⟩⟩⟩ := answered
      exact ⟨.error failure, rfl, rfl⟩
  | committed _ =>
      obtain _ | ⟨_, _ | ⟨_, _ | ⟨_, ⟨⟩⟩⟩⟩ := answered
      exact ⟨.ok (), rfl, rfl⟩
  | notBegun | tooMany | tooLong | notExecuted => simp at answered

theorem acknowledged_carriedOut (rows : List ClaimRow) :
    Acknowledged (carriedOut limit leaseSeconds rows) := by
  simp [Acknowledged, carriedOut]

theorem answered_carriedOut (rows : List ClaimRow) :
    ⟨.execute (.claimEmails limit leaseSeconds), .ok rows⟩ ∈
      carriedOut limit leaseSeconds rows := by
  simp [carriedOut]

/-- The rows of a claim cannot all be read just if one of them has a negative number of attempts. -/
theorem reading_fails_iff (rows : List ClaimRow) :
    (∃ fault, (oldestFirst rows).mapM ClaimRow.read = .error fault) ↔
      ∃ row ∈ rows, row.attempts < 0 := by
  rw [mapM_fails_iff]
  simp only [oldestFirst, mem_sorted, ClaimRow.read_fails_iff]

/-- To a claim that fails no commit has been acknowledged, just if no rows are committed of which one
has a negative number of attempts. -/
theorem failed_claim_is_uncommitted_iff (serve : Server link σ) (state : σ)
    (limit leaseSeconds : Nat) :
    ((∃ fault, ((claim limit leaseSeconds).run serve state).1 = .error fault) →
      ¬ Acknowledged ((claim limit leaseSeconds).transcript serve state)) ↔
    ∀ rows, (claim limit leaseSeconds).transcript serve state =
      carriedOut limit leaseSeconds rows → ∀ row ∈ rows, 0 ≤ row.attempts := by
  have goes := goes_claim serve state limit leaseSeconds
  constructor
  · intro kept rows told row member
    rw [told] at goes kept
    refine Int.not_lt.1 fun negative => kept ?_ (acknowledged_carriedOut rows)
    rw [goes.result_carriedOut]
    exact (reading_fails_iff rows).2 ⟨row, member, negative⟩
  · rintro counted ⟨fault, failed⟩ acknowledged
    obtain ⟨rows, told, result⟩ := goes.of_acknowledged acknowledged
    obtain ⟨row, member, negative⟩ := (reading_fails_iff rows).1 ⟨fault, result ▸ failed⟩
    exact absurd negative (Int.not_lt.2 (counted rows told row member))

def reminder : ClaimRow :=
  ⟨.ofNat 1, "crew@example.org", "Reminder", "Bring the logbook.", 0, .ofNat 2, .epoch⟩

/-- The same row with a number of attempts below zero. -/
def miscounted : ClaimRow := { reminder with key := .ofNat 3, attempts := -1 }

/-- A server that answers a claim with a reminder and with a miscounted row. -/
def miscountingDesk : Desk :=
  .set none [.answer fun
    | .claimEmails _ _ => .ok [reminder, miscounted]
    | statement => .ok statement.nothing] ⟨0⟩

/-- The claim of both rows is committed and then fails, so that the reminder is leased as well. -/
theorem committed_claim_fails :
    (claim 10 60).transcript Desk.serve miscountingDesk =
        carriedOut 10 60 [reminder, miscounted] ∧
      Acknowledged ((claim 10 60).transcript Desk.serve miscountingDesk) ∧
      ((claim 10 60).run Desk.serve miscountingDesk).1 = .error miscounted.badAttempts := by
  have told : (claim 10 60).transcript Desk.serve miscountingDesk =
      carriedOut 10 60 [reminder, miscounted] := rfl
  refine ⟨told, told ▸ acknowledged_carriedOut _, ?_⟩
  rfl

end Emails

end ClubOffice.Table
