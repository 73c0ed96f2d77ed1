import ClubOffice.Email.Flush
import ClubOffice.Job.Upkeep
import ClubOffice.Proofs.Plan.Course

/-!
# What a flush does with its emails

A flush hands each email of its claim to the sender and has the queue note the outcome before it
goes on to the next. What it may be answered is left open: the tally counts the answers of the
queue, a delivery that fails stops nothing, and the first fault of the queue stops the flush where
it is.
-/

namespace ClubOffice.Email

open Plan

/-- A claimed email that is handed to the sender, and what the queue answers when the outcome is
noted: the email was delivered, or the sender failed. -/
inductive Handling
  | delivered (email : Claimed) (noted : Except Fault Bool)
  | undelivered (email : Claimed) (failure : Fault) (noted : Except Fault (Option Status))

/-- What has become of an email by the answer to a note. -/
inductive Fate
  | sent
  | retried
  | failed
  | leaseLost
deriving DecidableEq

/-- The fate that an exchange tells of. -/
def Post.fate? : Exchange post → Option Fate
  | ⟨.markSent _ _, .ok true⟩ => some .sent
  | ⟨.markSent _ _, .ok false⟩ => some .leaseLost
  | ⟨.recordFailure _ _ _ _, .ok none⟩ => some .leaseLost
  | ⟨.recordFailure _ _ _ _, .ok (some .failed)⟩ => some .failed
  | ⟨.recordFailure _ _ _ _, .ok (some _)⟩ => some .retried
  | _ => none

/-- How often a fate is told of. -/
def Post.count (fate : Fate) (asked : List (Exchange post)) : Nat :=
  (asked.filterMap Post.fate?).count fate

namespace Handling

def email : Handling → Claimed
  | .delivered email _ => email
  | .undelivered email _ _ => email

/-- The email is handed to the sender as it was claimed. A delivery is noted as sent, under the
token of the claim, and a failure with its text and with the number of attempts that are allowed. -/
def exchanges (most : Nat) : Handling → List (Exchange post)
  | .delivered email noted =>
      [⟨.send email.recipient email.subject email.body none, .ok ()⟩,
        ⟨.markSent email.key email.token, noted⟩]
  | .undelivered email failure noted =>
      [⟨.send email.recipient email.subject email.body none, .error failure⟩,
        ⟨.recordFailure email.key email.token failure.message most, noted⟩]

/-- What the queue failed with. -/
def fault? : Handling → Option Fault
  | .delivered _ (.error fault) => some fault
  | .undelivered _ _ (.error fault) => some fault
  | _ => none

end Handling

/-- The calls that a flush makes and the result that it comes to. The claim fails; or each claimed
email is handled, and none of the notes fails; or some are handled, and a note fails for the email
after them. -/
inductive Flushes (policy : Policy) : List (Exchange post) → Except Fault Tally → Prop
  | unclaimed (fault : Fault) :
      Flushes policy [⟨.claim policy.batchSize policy.leaseSeconds, .error fault⟩] (.error fault)
  | finished (handled : List Handling) (noted : ∀ handling ∈ handled, handling.fault? = none)
      (asked : List (Exchange post))
      (calls : asked = handled.flatMap (·.exchanges policy.maxAttempts)) :
      Flushes policy
        (⟨.claim policy.batchSize policy.leaseSeconds, .ok (handled.map (·.email))⟩ :: asked)
        (.ok
          { claimed := handled.length
            sent := Post.count .sent asked
            retried := Post.count .retried asked
            failed := Post.count .failed asked
            leaseLost := Post.count .leaseLost asked })
  | aborted (handled : List Handling) (noted : ∀ handling ∈ handled, handling.fault? = none)
      (last : Handling) (fault : Fault) (failed : last.fault? = some fault)
      (others : List Claimed) :
      Flushes policy
        (⟨.claim policy.batchSize policy.leaseSeconds,
            .ok (handled.map (·.email) ++ last.email :: others)⟩ ::
          (handled.flatMap (·.exchanges policy.maxAttempts) ++ last.exchanges policy.maxAttempts))
        (.error fault)

/-- The tally with what the exchanges tell of. -/
def Tally.noting (tally : Tally) (asked : List (Exchange post)) : Tally where
  claimed := tally.claimed
  sent := tally.sent + Post.count .sent asked
  retried := tally.retried + Post.count .retried asked
  failed := tally.failed + Post.count .failed asked
  leaseLost := tally.leaseLost + Post.count .leaseLost asked

theorem Tally.noting_start (claimed : Nat) (asked : List (Exchange post)) :
    (Tally.start claimed).noting asked =
      { claimed := claimed
        sent := Post.count .sent asked
        retried := Post.count .retried asked
        failed := Post.count .failed asked
        leaseLost := Post.count .leaseLost asked } := by
  simp only [noting, start, Nat.zero_add]

theorem Tally.noting_append (tally : Tally) (asked later : List (Exchange post)) :
    tally.noting (asked ++ later) = (tally.noting asked).noting later := by
  simp only [noting, Post.count, List.filterMap_append, List.count_append, Nat.add_assoc]

variable {policy : Policy} {most : Nat} {tally : Tally} {emails others : List Claimed}
variable {asked : List (Exchange post)} {result : Except Fault Tally}
variable {handling : Handling} {handled : List Handling} {fault : Fault}

theorem course_handling (noted : handling.fault? = none) :
    Course (deliverEach most (handling.email :: emails) tally) (handling.exchanges most)
      (deliverEach most emails (tally.noting (handling.exchanges most))) := by
  obtain ⟨email, fault | _ | _⟩ | ⟨email, failure, fault | _ | status⟩ := handling
  · cases noted
  · exact .ask _ (.ask _ (.still _))
  · exact .ask _ (.ask _ (.still _))
  · cases noted
  · exact .ask _ (.ask _ (.still _))
  · cases status <;> exact .ask _ (.ask _ (.still _))

theorem course_failing (failed : handling.fault? = some fault) :
    Course (deliverEach most (handling.email :: emails) tally) (handling.exchanges most)
      (.done (.error fault)) := by
  obtain ⟨email, _ | _⟩ | ⟨email, failure, _ | _⟩ := handling
  · cases failed
    exact .ask _ (.ask _ (.still _))
  · cases failed
  · cases failed
    exact .ask _ (.ask _ (.still _))
  · cases failed

/-- A delivery gets past the emails whose notes do not fail. -/
theorem course_handled (noted : ∀ handling ∈ handled, handling.fault? = none) :
    Course (deliverEach most (handled.map (·.email) ++ others) tally)
      (handled.flatMap (·.exchanges most))
      (deliverEach most others (tally.noting (handled.flatMap (·.exchanges most)))) := by
  induction handled generalizing tally with
  | nil => exact .still _
  | cons handling handled ih =>
      obtain ⟨first, later⟩ := List.forall_mem_cons.1 noted
      rw [List.flatMap_cons, Tally.noting_append]
      exact (course_handling first).append (ih later)

/-- A delivery handles the first of its emails, and ends there or goes on to the others. -/
theorem handling_of_course {email : Claimed}
    (course : Course (deliverEach most (email :: emails) tally) asked (.done result)) :
    ∃ handling : Handling, handling.email = email ∧
      ((∃ fault, handling.fault? = some fault ∧ asked = handling.exchanges most ∧
          result = .error fault) ∨
        (handling.fault? = none ∧ ∃ later, asked = handling.exchanges most ++ later ∧
          Course (deliverEach most emails (tally.noting (handling.exchanges most))) later
            (.done result))) := by
  obtain ⟨answer, settling, rfl, settles⟩ := course.of_ask_done
  rcases answer with failure | ⟨⟩
  · obtain ⟨reply, later, rfl, onward⟩ := settles.of_ask_done
    refine ⟨.undelivered email failure reply, rfl, ?_⟩
    rcases reply with fault | _ | status
    · obtain ⟨rfl, ended⟩ := course_done_iff.1 onward
      cases ended
      exact .inl ⟨fault, rfl, rfl, rfl⟩
    · exact .inr ⟨rfl, later, rfl, onward⟩
    · refine .inr ⟨rfl, later, rfl, ?_⟩
      cases status <;> exact onward
  · obtain ⟨reply, later, rfl, onward⟩ := settles.of_ask_done
    refine ⟨.delivered email reply, rfl, ?_⟩
    rcases reply with fault | _ | _
    · obtain ⟨rfl, ended⟩ := course_done_iff.1 onward
      cases ended
      exact .inl ⟨fault, rfl, rfl, rfl⟩
    · exact .inr ⟨rfl, later, rfl, onward⟩
    · exact .inr ⟨rfl, later, rfl, onward⟩

/-- A delivery handles all of its emails, or it ends with the first note that fails. -/
theorem handled_of_course
    (course : Course (deliverEach most emails tally) asked (.done result)) :
    ∃ handled : List Handling, (∀ handling ∈ handled, handling.fault? = none) ∧
      ((emails = handled.map (·.email) ∧ asked = handled.flatMap (·.exchanges most) ∧
          result = .ok (tally.noting asked)) ∨
        ∃ (last : Handling) (fault : Fault) (others : List Claimed), last.fault? = some fault ∧
          emails = handled.map (·.email) ++ last.email :: others ∧
          asked = handled.flatMap (·.exchanges most) ++ last.exchanges most ∧
          result = .error fault) := by
  induction emails generalizing tally asked with
  | nil =>
      obtain ⟨rfl, ended⟩ := course_done_iff.1 course
      cases ended
      exact ⟨[], List.forall_mem_nil _, .inl ⟨rfl, rfl, rfl⟩⟩
  | cons email emails ih =>
      obtain ⟨handling, rfl, ⟨fault, failed, rfl, rfl⟩ | ⟨noted, later, rfl, onward⟩⟩ :=
        handling_of_course course
      · exact ⟨[], List.forall_mem_nil _, .inr ⟨handling, fault, emails, failed, rfl, rfl, rfl⟩⟩
      -- The rest of the emails goes on from a tally in which the first one is counted already.
      obtain ⟨handled, others, ends⟩ := ih onward
      refine ⟨handling :: handled, List.forall_mem_cons.2 ⟨noted, others⟩, ?_⟩
      rcases ends with ⟨rfl, rfl, rfl⟩ | ⟨last, fault, left, failed, rfl, rfl, rfl⟩
      · left
        rw [Tally.noting_append]
        exact ⟨rfl, rfl, rfl⟩
      · right
        refine ⟨last, fault, left, failed, rfl, ?_, rfl⟩
        rw [List.flatMap_cons, List.append_assoc]

theorem course_flush_iff : Course (flush policy) asked (.done result) ↔
    Flushes policy asked result := by
  constructor
  · intro course
    obtain ⟨reply, delivering, rfl, delivers⟩ := course.of_ask_done
    rcases reply with fault | claimed
    · obtain ⟨rfl, ended⟩ := course_done_iff.1 delivers
      cases ended
      exact .unclaimed fault
    · obtain ⟨handled, noted, ⟨rfl, rfl, rfl⟩ | ⟨last, fault, others, failed, rfl, rfl, rfl⟩⟩ :=
        handled_of_course delivers
      · rw [List.length_map, Tally.noting_start]
        exact .finished handled noted _ rfl
      · exact .aborted handled noted last fault failed others
  · intro flushes
    cases flushes with
    | unclaimed fault => exact .ask _ (.still _)
    | finished handled noted asked calls =>
        subst calls
        have course : Course (deliverEach policy.maxAttempts (handled.map (·.email) ++ [])
            (.start (handled.map (·.email)).length)) _ _ := course_handled noted
        rw [List.append_nil] at course
        rw [← Tally.noting_start, ← List.length_map (·.email)]
        exact .ask _ course
    | aborted handled noted last fault failed others =>
        exact .ask _ ((course_handled noted).append (course_failing failed))

theorem fates_of_noted (noted : ∀ handling ∈ handled, handling.fault? = none) :
    ((handled.flatMap (·.exchanges most)).filterMap Post.fate?).length = handled.length := by
  induction handled with
  | nil => rfl
  | cons handling handled ih =>
      obtain ⟨first, later⟩ := List.forall_mem_cons.1 noted
      have one : ((handling.exchanges most).filterMap Post.fate?).length = 1 := by
        obtain ⟨email, fault | _ | _⟩ | ⟨email, failure, fault | _ | status⟩ := handling
        · cases first
        · rfl
        · rfl
        · cases first
        · rfl
        · cases status <;> rfl
      rw [List.flatMap_cons, List.filterMap_append, List.length_append, one, ih later,
        List.length_cons, Nat.add_comm]

theorem length_eq_counts (fates : List Fate) :
    fates.length = fates.count .sent + fates.count .retried + fates.count .failed +
      fates.count .leaseLost := by
  induction fates with
  | nil => rfl
  | cons fate fates ih => cases fate <;> simp [ih] <;> omega

/-- Whatever a flush is answered, it makes the calls that it should and no others, for one email of
its claim after the other, and comes to the result that they tell of. If it comes to a tally, each
claimed email is counted there once, and the emails sent are what is reported of it; if it comes to
a fault, that is reported. -/
theorem flush_accounts_for_each_email (policy : Policy) :
    (∀ asked result,
      Course (flush policy) asked (.done result) ↔ Flushes policy asked result) ∧
    (∀ {σ : Type} (serve : Server post σ) state,
      Flushes policy ((flush policy).transcript serve state)
        ((flush policy).run serve state).1) ∧
    ∀ asked result, Flushes policy asked result →
      (∀ tally, result = .ok tally →
        tally.claimed = tally.sent + tally.retried + tally.failed + tally.leaseLost ∧
          Job.ofFlush result = .report (Post.count .sent asked)) ∧
      ∀ fault, result = .error fault → Job.ofFlush result = .fault fault := by
  refine ⟨fun asked result => course_flush_iff, ?runs, ?counted⟩
  case runs =>
    intro σ serve state
    exact course_flush_iff.1 (course_transcript serve (flush policy) state)
  case counted =>
    intro asked result flushes
    constructor
    · rintro tally rfl
      cases flushes with
      | finished handled noted asked calls =>
          subst calls
          refine ⟨?_, rfl⟩
          rw [← fates_of_noted noted]
          exact length_eq_counts _
    · rintro fault rfl
      rfl

def invitation (number : Nat) : Claimed :=
  ⟨⟨.ofNat number⟩, "diver@club.example", "Trip", "See you there", 4, ⟨.ofNat (100 + number)⟩⟩

def unreachable : Fault := .internal "no route to host"

/-- The first invitation is sent, the second one fails for good, and the lease of the third one is
lost; or the queue fails when the second one is to be noted, and the third one is left alone. -/
theorem invitations_are_accounted_for :
    (∃ asked, Course (flush .standard) asked (.done (.ok ⟨3, 1, 0, 1, 1⟩)) ∧ asked.length = 7 ∧
      Job.ofFlush (.ok ⟨3, 1, 0, 1, 1⟩) = .report 1) ∧
    ∃ asked, Course (flush .standard) asked (.done (.error (.conflict "locked"))) ∧
      asked.length = 5 ∧
      Job.ofFlush (.error (.conflict "locked")) = .fault (.conflict "locked") := by
  obtain ⟨courses, _, counts⟩ := flush_accounts_for_each_email .standard
  let first : Handling := .delivered (invitation 1) (.ok true)
  let second : Handling := .undelivered (invitation 2) unreachable (.ok (some .failed))
  let third : Handling := .undelivered (invitation 3) unreachable (.ok none)
  let stuck : Handling := .undelivered (invitation 2) unreachable (.error (.conflict "locked"))
  constructor
  · have noted : ∀ handling ∈ [first, second, third], handling.fault? = none := by
      simp [first, second, third, Handling.fault?]
    have flushes : Flushes .standard _ (.ok ⟨3, 1, 0, 1, 1⟩) := .finished _ noted _ rfl
    exact ⟨_, (courses _ _).2 flushes, rfl, ((counts _ _ flushes).1 _ rfl).2⟩
  · have noted : ∀ handling ∈ [first], handling.fault? = none := by
      simp [first, Handling.fault?]
    have flushes : Flushes .standard _ (.error (.conflict "locked")) :=
      .aborted _ noted stuck _ rfl [invitation 3]
    exact ⟨_, (courses _ _).2 flushes, rfl, (counts _ _ flushes).2 _ rfl⟩

end ClubOffice.Email
