import ClubOffice.Proofs.Table.Claiming

/-!
# Claimed emails in order of age

The rows of a claim come in any order. There is one way to put them in line, the oldest first and
rows of the same age in the order in which they came, so rows are taken with their places in the
answer. The emails of a claim are those of the rows in line, each with what its own row says of it.
If some numbers of attempts are negative, the claim ends with the fault of the row among these that
is the first in line, whichever of them came first.
-/

namespace ClubOffice.Table

open Email Time

/-- Of two rows with their places in an answer, the first is older, or they have the same age and it
came earlier. -/
def Senior (a b : ClaimRow × Nat) : Prop :=
  a.1.createdAt < b.1.createdAt ∨ a.1.createdAt = b.1.createdAt ∧ a.2 < b.2

instance (a b : ClaimRow × Nat) : Decidable (Senior a b) := inferInstanceAs (Decidable (_ ∨ _))

theorem senior_iff {a b : ClaimRow × Nat} :
    Senior a b ↔ a.1.createdAt ≤ b.1.createdAt ∧ (b.1.createdAt ≤ a.1.createdAt → a.2 < b.2) :=
  Instant.lt_or_tie_iff

theorem Senior.asymm {a b : ClaimRow × Nat} (senior : Senior a b) : ¬ Senior b a := by
  intro junior
  rw [senior_iff] at senior junior
  exact Nat.lt_asymm (senior.2 junior.1) (junior.2 senior.1)

/-- All rows of an answer with their places in it, in order of seniority. -/
structure LinedUp (rows : List ClaimRow) (line : List (ClaimRow × Nat)) : Prop where
  whole : line.Perm rows.zipIdx
  ordered : line.Pairwise Senior

namespace LinedUp

variable {rows : List ClaimRow} {line other : List (ClaimRow × Nat)}

theorem unique (linedUp : LinedUp rows line) (linedUp' : LinedUp rows other) : other = line := by
  refine List.Perm.eq_of_pairwise ?_ linedUp'.ordered linedUp.ordered
    (linedUp'.whole.trans linedUp.whole.symm)
  exact fun _ _ _ _ senior junior => absurd junior senior.asymm

theorem perm (linedUp : LinedUp rows line) : (line.map (·.1)).Perm rows := by
  have whole := linedUp.whole.map (·.1)
  rwa [List.zipIdx_map_fst] at whole

theorem mem_rows_iff (linedUp : LinedUp rows line) {row : ClaimRow} :
    row ∈ rows ↔ ∃ placed ∈ line, placed.1 = row := by
  rw [← linedUp.perm.mem_iff, List.mem_map]

end LinedUp

/-- The rows with their places, put in line. -/
def lineUp (rows : List ClaimRow) : List (ClaimRow × Nat) :=
  sorted (fun a b => a.1.createdAt ≤ b.1.createdAt) rows.zipIdx

theorem map_lineUp (rows : List ClaimRow) : (lineUp rows).map (·.1) = oldestFirst rows :=
  map_sorted_zipIdx (fun a b : ClaimRow => decide (a.createdAt ≤ b.createdAt)) rows

theorem linedUp_lineUp (rows : List ClaimRow) : LinedUp rows (lineUp rows) where
  whole := sorted_perm _ _
  ordered := Instant.pairwise_sorted_by (fun placed : ClaimRow × Nat => placed.1.createdAt)
    (pairwise_place_zipIdx rows)

/-- The email has the key, the texts, the number of attempts and the token of the row. -/
structure ClaimRow.Gives (row : ClaimRow) (email : Claimed) : Prop where
  key : email.key.uuid = row.key
  recipient : email.recipient = row.recipient
  subject : email.subject = row.subject
  body : email.body = row.body
  attempts : (email.attempts : Int) = row.attempts
  token : email.token.uuid = row.token

theorem ClaimRow.read_eq_ok_iff {row : ClaimRow} {email : Claimed} :
    row.read = .ok email ↔ row.Gives email := by
  unfold ClaimRow.read
  split
  · rename_i negative
    refine ⟨fun same => (nomatch same), fun gives => absurd negative (Int.not_lt.2 ?_)⟩
    exact gives.attempts ▸ Int.natCast_nonneg email.attempts
  · rename_i counted
    constructor
    · intro same
      cases same
      exact ⟨rfl, rfl, rfl, rfl, Int.toNat_of_nonneg (Int.not_lt.1 counted), rfl⟩
    · rintro ⟨key, recipient, subject, body, attempts, token⟩
      rw [← key, ← recipient, ← subject, ← body, ← attempts, ← token, Int.toNat_natCast]

theorem mapM_read_oldestFirst (rows : List ClaimRow) :
    (oldestFirst rows).mapM ClaimRow.read = (lineUp rows).mapM fun placed => placed.1.read := by
  rw [← map_lineUp, List.mapM_map]
  rfl

section Reading

variable {line : List (ClaimRow × Nat)}

/-- If no number of attempts is negative, all rows in line are read. -/
theorem reads_of_counted (counted : ∀ placed ∈ line, 0 ≤ placed.1.attempts) :
    ∃ emails, line.mapM (fun placed => placed.1.read) = .ok emails ∧
      List.Forall₂ (fun placed email => placed.1.Gives email) line emails := by
  cases ended : line.mapM fun placed => placed.1.read with
  | error fault =>
      obtain ⟨placed, member, failed⟩ := mapM_fails_iff.1 ⟨fault, ended⟩
      have negative := (ClaimRow.read_fails_iff placed.1).1 failed
      exact absurd negative (Int.not_lt.2 (counted placed member))
  | ok emails =>
      exact ⟨emails, rfl, (mapM_eq_ok_iff.1 ended).imp fun _ _ => ClaimRow.read_eq_ok_iff.1⟩

/-- If some number of attempts is negative, the fault is that of the first row in line with one. -/
theorem fails_of_negative (miscounted : ∃ placed ∈ line, placed.1.attempts < 0) :
    ∃ before bad after, line = before ++ bad :: after ∧
      (∀ placed ∈ before, 0 ≤ placed.1.attempts) ∧ bad.1.attempts < 0 ∧
      line.mapM (fun placed => placed.1.read) = .error bad.1.badAttempts := by
  obtain ⟨placed, member, negative⟩ := miscounted
  obtain ⟨fault, ended⟩ : ∃ fault, line.mapM (fun placed => placed.1.read) = .error fault :=
    mapM_fails_iff.2 ⟨placed, member, (ClaimRow.read_fails_iff placed.1).2 negative⟩
  obtain ⟨before, bad, after, split, fine, wrong⟩ := mapM_eq_error_iff.1 ended
  obtain ⟨negative, rfl⟩ := ClaimRow.read_eq_error_iff.1 wrong
  refine ⟨before, bad, after, split, fun placed member => ?_, negative, ended⟩
  obtain ⟨email, read⟩ := fine placed member
  exact (ClaimRow.read_eq_ok_iff.1 read).attempts ▸ Int.natCast_nonneg email.attempts

end Reading

/-- A server that answers a claim with the rows. -/
def Desk.handing (rows : List ClaimRow) : Desk :=
  .set none [.answer fun
    | .claimEmails _ _ => .ok rows
    | statement => .ok statement.nothing] ⟨0⟩

namespace Emails

theorem transcript_claim_handing {limit leaseSeconds : Nat} (below : limit < numberBound)
    (short : leaseSeconds < smallBound) (rows : List ClaimRow) :
    (claim limit leaseSeconds).transcript Desk.serve (Desk.handing rows) =
      carriedOut limit leaseSeconds rows := by
  have begun : Desk.serve .begin (Desk.handing rows) =
      (.ok (), (Desk.handing rows).tell .begin) := rfl
  simp only [claim, Plan.transcript, begun, fit_of_lt below, fit_of_lt short]
  rfl

/-- There is one way to put the rows of an answer in line, oldest first. Any rows can be what a
claim is answered with. The claim then asks for its commit, and once that is acknowledged it ends
with the emails of all rows in line, or, if some numbers of attempts are negative, with the fault of
the first row in line that has one. -/
theorem emails_come_oldest_first (rows : List ClaimRow) :
    ∃ line, LinedUp rows line ∧ (∀ other, LinedUp rows other → other = line) ∧
      (∀ limit < numberBound, ∀ leaseSeconds < smallBound,
        (claim limit leaseSeconds).transcript Desk.serve (Desk.handing rows) =
          carriedOut limit leaseSeconds rows) ∧
      ∀ (σ : Type) (serve : Server link σ) (state : σ) (limit leaseSeconds : Nat),
        ⟨.execute (.claimEmails limit leaseSeconds), .ok rows⟩ ∈
          (claim limit leaseSeconds).transcript serve state →
        ∃ reply : Except Failure Unit,
          (claim limit leaseSeconds).transcript serve state =
            [⟨.begin, .ok ()⟩, ⟨.execute (.claimEmails limit leaseSeconds), .ok rows⟩,
              ⟨.commit, reply⟩] ∧
          match reply with
          | .error failure =>
              ((claim limit leaseSeconds).run serve state).1 = .error (.internal
                s!"failed to commit email claim transaction: {failure.message}")
          | .ok () =>
              ((∀ row ∈ rows, 0 ≤ row.attempts) →
                ∃ emails, ((claim limit leaseSeconds).run serve state).1 = .ok emails ∧
                  List.Forall₂ (fun placed email => placed.1.Gives email) line emails) ∧
              ((∃ row ∈ rows, row.attempts < 0) →
                ∃ before bad after, line = before ++ bad :: after ∧
                  (∀ placed ∈ before, 0 ≤ placed.1.attempts) ∧ bad.1.attempts < 0 ∧
                  ((claim limit leaseSeconds).run serve state).1 = .error (.internal
                    (s!"invalid attempts value for email '{bad.1.key}': " ++
                      "number too small to fit in target type"))) := by
  have linedUp := linedUp_lineUp rows
  refine ⟨lineUp rows, linedUp, fun other => linedUp.unique, ?handed, ?ended⟩
  case handed =>
    intro limit below leaseSeconds short
    exact transcript_claim_handing below short rows
  case ended =>
    intro σ serve state limit leaseSeconds answered
    obtain ⟨reply, told, result⟩ := (goes_claim serve state limit leaseSeconds).of_answered answered
    refine ⟨reply, told, ?_⟩
    cases reply with
    | error failure => exact result
    | ok done =>
        rw [result, mapM_read_oldestFirst]
        constructor
        · intro counted
          exact reads_of_counted fun placed member =>
            counted placed.1 (linedUp.mem_rows_iff.2 ⟨placed, member, rfl⟩)
        · rintro ⟨row, member, negative⟩
          obtain ⟨placed, inLine, rfl⟩ := linedUp.mem_rows_iff.1 member
          exact fails_of_negative ⟨placed, inLine, negative⟩

/-- A minute after the epoch. -/
def minuteLater : Instant := ⟨60, 0, by decide, by decide, Instant.epoch.nanos_lt, by decide⟩

def farewell : ClaimRow :=
  ⟨.ofNat 1, "crew@example.org", "Farewell", "The boat leaves.", 2, .ofNat 11, minuteLater⟩

def welcome : ClaimRow :=
  ⟨.ofNat 2, "guest@example.org", "Welcome", "Meet at the dock.", 0, .ofNat 12, .epoch⟩

def rota : ClaimRow :=
  ⟨.ofNat 3, "crew@example.org", "Rota", "See the board.", 1, .ofNat 13, .epoch⟩

def mailbag : List ClaimRow := [farewell, welcome, rota]

/-- The same rows, two of them with a number of attempts below zero. -/
def miscountedMailbag : List ClaimRow :=
  [{ farewell with attempts := -1 }, welcome, { rota with attempts := -2 }]

/-- The youngest of three rows came first and is the last in line. If two numbers of attempts are
negative, not the row that came first is said to be wrong but the older of the two. -/
theorem welcome_comes_before_farewell :
    LinedUp mailbag [(welcome, 1), (rota, 2), (farewell, 0)] ∧
      (⟨.execute (.claimEmails 3 60), .ok mailbag⟩ ∈
          (claim 3 60).transcript Desk.serve (Desk.handing mailbag) ∧
        ∃ emails, ((claim 3 60).run Desk.serve (Desk.handing mailbag)).1 = .ok emails ∧
          List.Forall₂ (fun placed email => placed.1.Gives email)
            [(welcome, 1), (rota, 2), (farewell, 0)] emails) ∧
      ⟨.execute (.claimEmails 3 60), .ok miscountedMailbag⟩ ∈
          (claim 3 60).transcript Desk.serve (Desk.handing miscountedMailbag) ∧
        ((claim 3 60).run Desk.serve (Desk.handing miscountedMailbag)).1 =
          .error (.internal ("invalid attempts value for email " ++
            "'00000000-0000-0000-0000-000000000003': number too small to fit in target type")) := by
  have linedUp : LinedUp mailbag [(welcome, 1), (rota, 2), (farewell, 0)] :=
    ⟨by decide, by decide⟩
  refine ⟨linedUp, ?counted, ?miscounted⟩
  case counted =>
    obtain ⟨line, _, unique, handed, ended⟩ := emails_come_oldest_first mailbag
    have told := handed 3 (by decide) 60 (by decide)
    have answered := told ▸ answered_carriedOut mailbag
    obtain ⟨reply, same, result⟩ := ended Desk Desk.serve _ 3 60 answered
    cases told.symm.trans same
    refine ⟨answered, ?_⟩
    rw [unique _ linedUp]
    exact result.1 (by decide)
  case miscounted =>
    obtain ⟨line, _, unique, handed, ended⟩ := emails_come_oldest_first miscountedMailbag
    have told := handed 3 (by decide) 60 (by decide)
    have answered := told ▸ answered_carriedOut miscountedMailbag
    obtain ⟨reply, same, result⟩ := ended Desk Desk.serve _ 3 60 answered
    cases told.symm.trans same
    refine ⟨answered, ?_⟩
    obtain ⟨before, bad, after, split, counted, negative, failed⟩ := result.2 (by decide)
    have linedUp' : LinedUp miscountedMailbag
        [(welcome, 1), ({ rota with attempts := -2 }, 2), ({ farewell with attempts := -1 }, 0)] :=
      ⟨by decide, by decide⟩
    rw [← unique _ linedUp'] at split
    -- The welcome is not wrong, and what stands behind the rota is not the first that is.
    obtain _ | ⟨first, _ | ⟨second, before⟩⟩ := before
    · cases split
      exact absurd negative (by decide)
    · cases split
      exact failed
    · injection split with _ split
      injection split with same _
      have fine := counted second (List.mem_cons_of_mem first List.mem_cons_self)
      exact absurd (same ▸ fine) (by decide)

end Emails

end ClubOffice.Table
