import ClubOffice.Email.Flush
import ClubOffice.Proofs.Plan.Ends
import ClubOffice.Proofs.Settings.Completeness
import ClubOffice.Proofs.Table.Rows
import ClubOffice.Table.Emails

/-!
# Numbers that do not fit

Settings are accepted whose numbers the server of the table cannot take: the number of emails in a
batch, the seconds of a lease and the number of attempts have each a bound of their own there. A
flush by way of the table can end with a fault that says so if one of the three is not below its
bound, and only then.
-/

namespace ClubOffice

open Plan

/-- Whether the server of a table can take the numbers. -/
def Email.Policy.Fits (policy : Policy) : Prop :=
  policy.batchSize < Table.numberBound ∧ policy.leaseSeconds < Table.smallBound ∧
    policy.maxAttempts < Table.smallBound

namespace Table

open Email Text

/-- The fault of a number that is given to the server and is too large for it. -/
def tooLarge (what : String) : Fault :=
  .validation s!"invalid email {what}: {NumeralFlaw.tooLarge.message}"

theorem fit_of_lt {bound n : Nat} (below : n < bound) (what : String) :
    fit bound what n = .ok n := by
  simp only [fit, checkBelow, if_pos below]

theorem fit_of_le {bound n : Nat} (beyond : bound ≤ n) (what : String) :
    fit bound what n = .error (tooLarge what) := by
  simp only [fit, checkBelow, if_neg (Nat.not_lt.2 beyond), tooLarge]

theorem ends_query_iff {α : Type} {statement : Statement} {fault : String → Fault}
    {next : statement.Answer → Plan link (Except Fault α)} {result : Except Fault α} :
    Ends (query statement fault next) result ↔
      (∃ answer, Ends (next answer) result) ∨
        ∃ failure : Failure, result = .error (fault failure.message) := by
  rw [query, ends_ask_iff]
  constructor
  · rintro ⟨failure | answer, ends⟩
    · exact .inr ⟨failure, ends_done_iff.1 ends⟩
    · exact .inl ⟨answer, ends⟩
  · rintro (⟨answer, ends⟩ | ⟨failure, same⟩)
    · exact ⟨.ok answer, ends⟩
    · exact ⟨.error failure, ends_done_iff.2 same⟩

theorem ends_finish_iff {α : Type} {statement : Statement} {fault : String → Fault}
    {result : statement.Answer → Except Fault α} {final : Except Fault α} :
    Ends (finish statement fault result) final ↔
      (∃ answer, final = result answer) ∨
        ∃ failure : Failure, final = .error (fault failure.message) := by
  rw [finish, ends_query_iff]
  simp only [ends_done_iff]

theorem unknownStatus_ne_tooLarge (word what : String) :
    Fault.validation s!"unknown queued email status '{word}'" ≠ tooLarge what := by
  intro same
  injection same with same
  have first := congrArg (fun text : String => text.toList.head?) same
  simp [toString] at first

/-- Whatever rows a claim is answered with, they are read, or the fault is an internal one. -/
theorem mapM_read_ne_validation (rows : List ClaimRow) (detail : String) :
    rows.mapM ClaimRow.read ≠ .error (.validation detail) := by
  intro failed
  obtain ⟨_, bad, _, _, _, wrong⟩ := mapM_eq_error_iff.1 failed
  unfold ClaimRow.read at wrong
  split at wrong
  · cases wrong
  · cases wrong

namespace Emails

section Claiming

variable {limit leaseSeconds : Nat}

theorem ends_claim_of_limit (beyond : numberBound ≤ limit) :
    Ends (claim limit leaseSeconds) (.error (tooLarge "claim limit")) := by
  refine ends_ask_iff.2 ⟨.ok (), ?_⟩
  rw [fit_of_le beyond]
  exact ends_done _

theorem ends_claim_of_lease (below : limit < numberBound) (beyond : smallBound ≤ leaseSeconds) :
    Ends (claim limit leaseSeconds) (.error (tooLarge "lease_seconds")) := by
  refine ends_ask_iff.2 ⟨.ok (), ?_⟩
  rw [fit_of_lt below, fit_of_le beyond]
  exact ends_done _

/-- A claim with numbers that fit can give out any rows, as they are read. -/
theorem ends_claim_of_fits (below : limit < numberBound) (short : leaseSeconds < smallBound)
    (rows : List ClaimRow) :
    Ends (claim limit leaseSeconds) ((oldestFirst rows).mapM ClaimRow.read) := by
  refine ends_ask_iff.2 ⟨.ok (), ?_⟩
  rw [fit_of_lt below, fit_of_lt short]
  refine ends_query_iff.2 (.inl ⟨rows, ?_⟩)
  exact ends_ask_iff.2 ⟨.ok (), ends_done _⟩

/-- What is not valid about a claim is one of its numbers, the limit before the lease. -/
theorem ends_claim_validation_iff {detail : String} :
    Ends (claim limit leaseSeconds) (.error (.validation detail)) ↔
      numberBound ≤ limit ∧ .validation detail = tooLarge "claim limit" ∨
        limit < numberBound ∧ smallBound ≤ leaseSeconds ∧
          .validation detail = tooLarge "lease_seconds" := by
  constructor
  · intro ends
    obtain ⟨failure | _, ends⟩ := ends_ask_iff.1 ends
    · cases ends_done_iff.1 ends
    by_cases below : limit < numberBound
    · by_cases short : leaseSeconds < smallBound
      · rw [fit_of_lt below, fit_of_lt short] at ends
        rcases ends_query_iff.1 ends with ⟨rows, ends⟩ | ⟨failure, same⟩
        · obtain ⟨failure | _, ends⟩ := ends_ask_iff.1 ends
          · cases ends_done_iff.1 ends
          · exact absurd (ends_done_iff.1 ends).symm (mapM_read_ne_validation _ _)
        · cases same
      · rw [fit_of_lt below, fit_of_le (Nat.not_lt.1 short)] at ends
        exact .inr ⟨below, Nat.not_lt.1 short, Except.error.inj (ends_done_iff.1 ends)⟩
    · rw [fit_of_le (Nat.not_lt.1 below)] at ends
      exact .inl ⟨Nat.not_lt.1 below, Except.error.inj (ends_done_iff.1 ends)⟩
  · rintro (⟨beyond, same⟩ | ⟨below, beyond, same⟩)
    · rw [same]
      exact ends_claim_of_limit beyond
    · rw [same]
      exact ends_claim_of_lease below beyond

end Claiming

section Settling

variable {key : EmailKey} {token : ClaimToken} {reason : String} {maxAttempts : Nat}

theorem recordFailure_of_le (beyond : smallBound ≤ maxAttempts) :
    recordFailure key token reason maxAttempts = .done (.error (tooLarge "max_attempts")) := by
  rw [recordFailure, fit_of_le beyond]

/-- With a number of attempts that fits, the one thing that is not valid is a status. -/
theorem unknownStatus_of_ends (below : maxAttempts < smallBound) {detail : String}
    (ends : Ends (recordFailure key token reason maxAttempts) (.error (.validation detail))) :
    ∃ word : String, detail = s!"unknown queued email status '{word}'" := by
  rw [recordFailure, fit_of_lt below] at ends
  rcases ends_finish_iff.1 ends with ⟨words, same⟩ | ⟨failure, same⟩
  · cases words with
    | nil => cases same
    | cons word words =>
        cases known : Email.Status.ofWord? word with
        | none =>
            simp only [Email.Status.read, known] at same
            cases same
            exact ⟨word, rfl⟩
        | some status =>
            simp only [Email.Status.read, known] at same
            cases same
  · cases same

end Settling

end Emails

section Flushing

/-- An email as it is given to those who deliver it. -/
structure Mail where
  recipient : String
  subject : String
  body : String
  html : Option String

/-- What can be asked of those who deliver emails. -/
abbrev carrier : Interface where
  Request := Mail
  Reply _ := Except Fault Unit

/-- Keeps the queue in a table, and has emails delivered by others. -/
def postOffice : Service post (link.plus carrier)
  | .enqueue letter => (Emails.enqueue letter).inLeft
  | .claim limit leaseSeconds => (Emails.claim limit leaseSeconds).inLeft
  | .send recipient subject body html => .ask (.inr ⟨recipient, subject, body, html⟩) .done
  | .markSent key token => (Emails.markSent key token).inLeft
  | .recordFailure key token reason maxAttempts =>
      (Emails.recordFailure key token reason maxAttempts).inLeft

variable {what : String}

theorem not_ends_markSent (key : EmailKey) (token : ClaimToken) :
    ¬ Ends (postOffice (.markSent key token)) (.error (tooLarge what)) := by
  intro ends
  have ended : Ends (Emails.markSent key token) (.error (tooLarge what)) := ends_inLeft_iff.1 ends
  rcases ends_finish_iff.1 ended with ⟨touched, same⟩ | ⟨failure, same⟩
  · cases same
  · cases same

theorem not_ends_recordFailure {maxAttempts : Nat} (below : maxAttempts < smallBound)
    (key : EmailKey) (token : ClaimToken) (reason : String) :
    ¬ Ends (postOffice (.recordFailure key token reason maxAttempts)) (.error (tooLarge what)) := by
  intro ends
  obtain ⟨word, same⟩ := Emails.unknownStatus_of_ends below (ends_inLeft_iff.1 ends)
  exact unknownStatus_ne_tooLarge word what (congrArg Fault.validation same.symm)

/-- No delivery ends with a number that is too large, if the number of attempts fits. -/
theorem not_ends_deliverEach {maxAttempts : Nat} (below : maxAttempts < smallBound)
    (emails : List Claimed) (tally : Tally) :
    ¬ Ends ((deliverEach maxAttempts emails tally).through postOffice)
      (.error (tooLarge what)) := by
  induction emails generalizing tally with
  | nil =>
      intro ends
      cases ends_done_iff.1 ends
  | cons email emails ih =>
      intro ends
      obtain ⟨failure | _, _, ends⟩ := ends_through_ask_iff.1 ends
      · obtain ⟨fault | _ | status, noted, ends⟩ := ends_through_ask_iff.1 ends
        · cases ends_done_iff.1 ends
          exact not_ends_recordFailure below _ _ _ noted
        · exact ih _ ends
        · exact ih _ ends
      · obtain ⟨fault | _ | _, marked, ends⟩ := ends_through_ask_iff.1 ends
        · cases ends_done_iff.1 ends
          exact not_ends_markSent _ _ marked
        · exact ih _ ends
        · exact ih _ ends

variable {policy : Policy}

theorem not_ends_flush (fits : policy.Fits) :
    ¬ Ends ((flush policy).through postOffice) (.error (tooLarge what)) := by
  intro ends
  obtain ⟨below, short, few⟩ := fits
  obtain ⟨fault | claimed, claiming, ends⟩ := ends_through_ask_iff.1 ends
  · cases ends_done_iff.1 ends
    rcases Emails.ends_claim_validation_iff.1 (ends_inLeft_iff.1 claiming) with
      ⟨beyond, _⟩ | ⟨_, beyond, _⟩
    · exact Nat.not_lt.2 beyond below
    · exact Nat.not_lt.2 beyond short
  · exact not_ends_deliverEach few _ _ ends

/-- A row that a claim can give out, whatever else is in the table. -/
def anyRow : ClaimRow := ⟨.ofNat 1, "diver@club.example", "Trip", "", 0, .ofNat 2, .epoch⟩

/-- If one of the numbers does not fit, a flush can end with the fault that says so: at once, or with
the first delivery that fails. -/
theorem ends_flush_of_not_fits (large : ¬ policy.Fits) :
    ∃ what, Ends ((flush policy).through postOffice) (.error (tooLarge what)) := by
  by_cases below : policy.batchSize < numberBound
  · by_cases short : policy.leaseSeconds < smallBound
    · have beyond : smallBound ≤ policy.maxAttempts :=
        Nat.not_lt.1 fun few => large ⟨below, short, few⟩
      have claimed : Ends (postOffice (.claim policy.batchSize policy.leaseSeconds))
          (.ok [⟨⟨.ofNat 1⟩, "diver@club.example", "Trip", "", 0, ⟨.ofNat 2⟩⟩]) :=
        ends_inLeft_iff.2 (Emails.ends_claim_of_fits below short [anyRow])
      refine ⟨"max_attempts", ends_through_ask_iff.2 ⟨_, claimed, ?_⟩⟩
      refine ends_through_ask_iff.2 ⟨.error (.internal ""), ends_ask_iff.2 ⟨_, ends_done _⟩, ?_⟩
      refine ends_through_ask_iff.2 ⟨.error (tooLarge "max_attempts"), ?_, ends_done _⟩
      rw [postOffice, Emails.recordFailure_of_le beyond]
      exact ends_done _
    · have ends := Emails.ends_claim_of_lease below (Nat.not_lt.1 short)
      exact ⟨_, ends_through_ask_iff.2 ⟨_, ends_inLeft_iff.2 ends, ends_done _⟩⟩
  · have ends : Ends (Emails.claim policy.batchSize policy.leaseSeconds) _ :=
      Emails.ends_claim_of_limit (Nat.not_lt.1 below)
    exact ⟨_, ends_through_ask_iff.2 ⟨_, ends_inLeft_iff.2 ends, ends_done _⟩⟩

end Flushing

/-- Settings that are accepted are good for the service, and for the table unless one of their
numbers is beyond what its server can take. -/
theorem accepted_settings_run_unless_large {migrateOnly : Bool} {lookup : Lookup}
    {settings : Settings} (accepted : Settings.read migrateOnly lookup = .ok settings) :
    settings.policy.check = .ok settings.policy ∧
      (∀ detail,
        Ends (Emails.claim settings.policy.batchSize settings.policy.leaseSeconds)
            (.error (.validation detail)) ↔
          numberBound ≤ settings.policy.batchSize ∧
              .validation detail = tooLarge "claim limit" ∨
            settings.policy.batchSize < numberBound ∧
              smallBound ≤ settings.policy.leaseSeconds ∧
                .validation detail = tooLarge "lease_seconds") ∧
      (∀ key token reason,
        (smallBound ≤ settings.policy.maxAttempts →
          Emails.recordFailure key token reason settings.policy.maxAttempts =
            .done (.error (tooLarge "max_attempts"))) ∧
        (settings.policy.maxAttempts < smallBound → ∀ what,
          ¬ Ends (Emails.recordFailure key token reason settings.policy.maxAttempts)
            (.error (tooLarge what)))) ∧
      ((∃ what, Ends ((flush settings.policy).through postOffice) (.error (tooLarge what))) ↔
        ¬ settings.policy.Fits) := by
  have sound := (Settings.sound_of_read accepted).2
  refine ⟨sound.accepted.2, fun detail => Emails.ends_claim_validation_iff, ?noting, ?flushing⟩
  case noting =>
    intro key token reason
    refine ⟨Emails.recordFailure_of_le, fun below what ends => ?_⟩
    exact not_ends_recordFailure below key token reason (ends_inLeft_iff.2 ends)
  case flushing =>
    constructor
    · rintro ⟨what, ends⟩ fits
      exact not_ends_flush fits ends
    · exact ends_flush_of_not_fits

/-- Settings with a batch of as many emails as can be asked for. -/
def wholesale : Settings :=
  ⟨false, "postgres://club", 5, 30, ⟨18446744073709551615, 5, 300⟩, .console⟩

theorem wholesale_is_accepted_and_refused :
    Settings.read false wholesale.spelled = .ok wholesale ∧
      wholesale.policy.check = .ok wholesale.policy ∧
      Ends (Emails.claim wholesale.policy.batchSize wholesale.policy.leaseSeconds)
        (.error (.validation
          "invalid email claim limit: number too large to fit in target type")) ∧
      ¬ wholesale.policy.Fits ∧
      ∃ what, Ends ((flush wholesale.policy).through postOffice) (.error (tooLarge what)) := by
  have sound : wholesale.Sound := by
    refine ⟨?_, ⟨?_, ?_⟩, ⟨?_, ?_⟩, ⟨?_, ?_⟩, ⟨?_, ?_⟩, ⟨?_, ?_⟩, trivial⟩ <;> decide
  have accepted : Settings.read false wholesale.spelled = .ok wholesale :=
    Settings.read_spelled sound
  have large : ¬ wholesale.policy.Fits := fun fits => absurd fits.1 (by decide)
  obtain ⟨checked, claiming, _, flushing⟩ := accepted_settings_run_unless_large accepted
  exact ⟨accepted, checked, (claiming _).2 (.inl ⟨by decide, rfl⟩), large, flushing.2 large⟩

/-- Settings with one attempt more than the server of a table can count. -/
def stubborn : Settings :=
  ⟨false, "postgres://club", 5, 30, ⟨50, 2147483648, 300⟩, .console⟩

/-- The settings are accepted, and no failed delivery can be noted under them. -/
theorem stubborn_notes_no_failure :
    Settings.read false stubborn.spelled = .ok stubborn ∧
      stubborn.policy.check = .ok stubborn.policy ∧
      ∀ key token reason,
        Emails.recordFailure key token reason stubborn.policy.maxAttempts =
          .done (.error (.validation
            "invalid email max_attempts: number too large to fit in target type")) := by
  have sound : stubborn.Sound := by
    refine ⟨?_, ⟨?_, ?_⟩, ⟨?_, ?_⟩, ⟨?_, ?_⟩, ⟨?_, ?_⟩, ⟨?_, ?_⟩, trivial⟩ <;> decide
  exact ⟨Settings.read_spelled sound, sound.accepted.2,
    fun _ _ _ => Emails.recordFailure_of_le (by decide)⟩

end Table

end ClubOffice
