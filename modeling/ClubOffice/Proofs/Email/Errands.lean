import ClubOffice.Proofs.Email.Accounts
import ClubOffice.Proofs.Plan.Crowd

/-!
# Errands to the email queue

Letters are queued and batches are delivered by plans over a queue. A delivery settles the leases of
its own claim, each of them once, in the order in which they were given out.
-/

namespace ClubOffice.Email

open Plan Post

inductive Errand
  | enqueue (recipient subject body : String)
  | flush (policy : Policy)
deriving DecidableEq

abbrev errands : Interface where
  Request := Errand
  Reply
    | .enqueue _ _ _ => Except Fault EmailKey
    | .flush _ => Except Fault Tally

def runErrand : Service errands post
  | .enqueue recipient subject body => enqueue recipient subject body
  | .flush policy => flush policy

def Errand.Bounded (most : Nat) : Errand → Prop
  | .enqueue _ _ _ => True
  | .flush policy => policy.maxAttempts = most

variable {most : Nat} {asked : List (Exchange post)}

/-- What is left of a delivery settles the leases of the first of its emails, in their order. -/
theorem course_deliverEach {emails : List Claimed} {tally : Tally}
    {rest : Plan post (Except Fault Tally)}
    (course : Course (deliverEach most emails tally) asked rest) :
    (asked.filterMap settling?).Sublist (emails.map fun email => (email.key, email.token)) ∧
      asked.flatMap granted = [] ∧ ∀ exchange ∈ asked, ¬ Stray most exchange := by
  induction emails generalizing tally asked with
  | nil =>
      obtain ⟨rfl, rfl⟩ := course_done_iff.1 course
      exact ⟨.slnil, rfl, List.forall_mem_nil _⟩
  | cons email emails ih =>
      rcases course_ask_iff.1 course with ⟨rfl, rfl⟩ | ⟨sent, later, rfl, settling⟩
      · exact ⟨List.nil_sublist _, rfl, List.forall_mem_nil _⟩
      have sending : ¬ Stray most ⟨.send email.recipient email.subject email.body none, sent⟩ := id
      suffices after : (later.filterMap settling?).Sublist
          ((email :: emails).map fun email => (email.key, email.token)) ∧
          later.flatMap granted = [] ∧ ∀ exchange ∈ later, ¬ Stray most exchange by
        exact ⟨after.1, after.2.1, List.forall_mem_cons.2 ⟨sending, after.2.2⟩⟩
      rcases sent with failure | ⟨⟩
      · rcases course_ask_iff.1 settling with ⟨rfl, rfl⟩ | ⟨noted, last, rfl, onward⟩
        · exact ⟨List.nil_sublist _, rfl, List.forall_mem_nil _⟩
        have noting : ¬ Stray most
            ⟨.recordFailure email.key email.token failure.message most, noted⟩ :=
          fun other => other rfl
        rcases noted with fault | _ | status
        · obtain ⟨rfl, rfl⟩ := course_done_iff.1 onward
          exact ⟨(List.nil_sublist _).cons_cons _, rfl, List.forall_mem_singleton.2 noting⟩
        · obtain ⟨settled, ungranted, bounded⟩ := ih onward
          exact ⟨settled.cons_cons _, ungranted, List.forall_mem_cons.2 ⟨noting, bounded⟩⟩
        · obtain ⟨settled, ungranted, bounded⟩ := ih onward
          exact ⟨settled.cons_cons _, ungranted, List.forall_mem_cons.2 ⟨noting, bounded⟩⟩
      · rcases course_ask_iff.1 settling with ⟨rfl, rfl⟩ | ⟨marked, last, rfl, onward⟩
        · exact ⟨List.nil_sublist _, rfl, List.forall_mem_nil _⟩
        have marking : ¬ Stray most ⟨.markSent email.key email.token, marked⟩ := id
        rcases marked with fault | _ | _
        · obtain ⟨rfl, rfl⟩ := course_done_iff.1 onward
          exact ⟨(List.nil_sublist _).cons_cons _, rfl, List.forall_mem_singleton.2 marking⟩
        · obtain ⟨settled, ungranted, bounded⟩ := ih onward
          exact ⟨settled.cons_cons _, ungranted, List.forall_mem_cons.2 ⟨marking, bounded⟩⟩
        · obtain ⟨settled, ungranted, bounded⟩ := ih onward
          exact ⟨settled.cons_cons _, ungranted, List.forall_mem_cons.2 ⟨marking, bounded⟩⟩

/-- A flush settles leases that it was given, each at most once and in their order. -/
theorem course_flush {policy : Policy} {rest : Plan post (Except Fault Tally)}
    (course : Course (flush policy) asked rest) :
    (asked.filterMap settling?).Sublist (asked.flatMap granted) ∧
      ∀ exchange ∈ asked, ¬ Stray policy.maxAttempts exchange := by
  rcases course_ask_iff.1 course with ⟨rfl, rfl⟩ | ⟨reply, later, rfl, delivering⟩
  · exact ⟨.slnil, List.forall_mem_nil _⟩
  have claiming : ¬ Stray policy.maxAttempts
      ⟨.claim policy.batchSize policy.leaseSeconds, reply⟩ := id
  rcases reply with fault | claimed
  · obtain ⟨rfl, rfl⟩ := course_done_iff.1 delivering
    exact ⟨.slnil, List.forall_mem_singleton.2 claiming⟩
  · obtain ⟨settled, ungranted, bounded⟩ := course_deliverEach delivering
    refine ⟨?_, List.forall_mem_cons.2 ⟨claiming, bounded⟩⟩
    rw [List.flatMap_cons, ungranted, List.append_nil]
    exact settled

theorem course_enqueue {recipient subject body : String} {rest : Plan post (Except Fault EmailKey)}
    (course : Course (enqueue recipient subject body) asked rest) :
    (asked.filterMap settling?).Sublist (asked.flatMap granted) ∧
      ∀ most, ∀ exchange ∈ asked, ¬ Stray most exchange := by
  unfold enqueue at course
  split at course
  · obtain ⟨rfl, rfl⟩ := course_done_iff.1 course
    exact ⟨.slnil, fun _ => List.forall_mem_nil _⟩
  · rcases course_ask_iff.1 course with ⟨rfl, rfl⟩ | ⟨reply, later, rfl, ended⟩
    · exact ⟨.slnil, fun _ => List.forall_mem_nil _⟩
    · obtain ⟨rfl, rfl⟩ := course_done_iff.1 ended
      exact ⟨.slnil, fun most => List.forall_mem_singleton.2 id⟩

theorem course_runErrand {errand : Errand} {rest : Plan post (errands.Reply errand)}
    (course : Course (runErrand errand) asked rest) :
    (asked.filterMap settling?).Sublist (asked.flatMap granted) ∧
      ∀ most, errand.Bounded most → ∀ exchange ∈ asked, ¬ Stray most exchange := by
  cases errand with
  | enqueue recipient subject body =>
      exact ⟨(course_enqueue course).1, fun most _ => (course_enqueue course).2 most⟩
  | flush policy =>
      refine ⟨(course_flush course).1, fun most bounded => ?_⟩
      exact (bounded : policy.maxAttempts = most) ▸ (course_flush course).2

end ClubOffice.Email
