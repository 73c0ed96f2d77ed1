import ClubOffice.Proofs.Email.Errands
import ClubOffice.Proofs.Email.Flushing
import ClubOffice.Proofs.Plan.Series
import Mathlib.Algebra.Order.BigOperators.Group.List
import Mathlib.Algebra.Order.Ring.Nat

/-!
# Queues that drain

Letters are queued and batches are flushed, one errand after the other, by a service with one policy
over a queue that fails no call. However the sender answers, every email is handed over until it is
delivered or its attempts are used up, and enough flushes leave nothing that waits.
-/

namespace ClubOffice.Email

open Manner Plan Post

/-- Whether a flush is one under the given policy. -/
def Errand.Under (policy : Policy) : Errand → Prop
  | .enqueue _ _ _ => True
  | .flush other => other = policy

theorem Errand.Under.bounded {policy : Policy} {errand : Errand} (under : errand.Under policy) :
    errand.Bounded policy.maxAttempts := by
  cases errand with
  | enqueue recipient subject body => exact trivial
  | flush other => exact congrArg Policy.maxAttempts under

/-- The key and the texts that a letter was accepted with. -/
def queued? : Visit errands post → Option (EmailKey × String × String × String)
  | ⟨.enqueue recipient subject body, _, .ok key⟩ =>
      some (key, String.ofList (Address.normal recipient.toList), subject, body)
  | _ => none

/-- The emails that an exchange gave out. -/
def Post.claims : Exchange post → List Claimed
  | ⟨.claim _ _, .ok claimed⟩ => claimed
  | _ => []

/-- What the sender answered in an exchange. -/
def Post.answer? : Exchange post → Option (Except Fault Unit)
  | ⟨.send _ _ _ _, answer⟩ => some answer
  | _ => none

/-- The claimed emails in their order, each with the answer that the sender gave in its turn. -/
def handOvers (asked : List (Exchange post)) : List HandOver :=
  List.zipWith HandOver.mk (asked.flatMap claims) (asked.filterMap answer?)

namespace HandOver

/-- Whether the email of a key was handed over, and delivered. -/
def succeeds (key : EmailKey) (hand : HandOver) : Bool := hand.email.key = key && hand.answer.isOk

/-- Whether the email of a key was handed over, and not delivered. -/
def fails (key : EmailKey) (hand : HandOver) : Bool := hand.email.key = key && !hand.answer.isOk

variable {most : Nat}

theorem countP_key (key : EmailKey) (hands : List HandOver) :
    hands.countP (·.email.key = key) = hands.countP (succeeds key) + hands.countP (fails key) := by
  rw [List.countP_eq_countP_filter_add hands _ fun hand => hand.answer.isOk, List.countP_filter,
    List.countP_filter]
  rfl

theorem claims_exchanges (hands : List HandOver) :
    (hands.flatMap (·.exchanges most)).flatMap claims = [] := by
  induction hands with
  | nil => rfl
  | cons hand hands ih =>
      obtain ⟨email, _ | _⟩ := hand
      · exact ih
      · exact ih

theorem answer?_exchanges (hands : List HandOver) :
    (hands.flatMap (·.exchanges most)).filterMap answer? = hands.map (·.answer) := by
  induction hands with
  | nil => rfl
  | cons hand hands ih =>
      obtain ⟨email, _ | _⟩ := hand
      · exact congrArg (_ :: ·) ih
      · exact congrArg (_ :: ·) ih

theorem countP_exchanges (most : Nat) (key : EmailKey) (hand : HandOver) :
    (hand.exchanges most).countP (notesDelivery key) = (if hand.succeeds key then 1 else 0) ∧
      (hand.exchanges most).countP (notesFailure key) = if hand.fails key then 1 else 0 := by
  obtain ⟨email, _ | _⟩ := hand
  · simp [exchanges, sending, settlement, notesDelivery, notesFailure, succeeds, fails,
      Except.isOk, Except.toBool, List.countP_cons]
  · simp [exchanges, sending, settlement, notesDelivery, notesFailure, succeeds, fails,
      Except.isOk, Except.toBool, List.countP_cons]

/-- What was noted of an email is how it was handed over. -/
theorem countP_flatMap_exchanges (key : EmailKey) (hands : List HandOver) :
    (hands.flatMap (·.exchanges most)).countP (notesDelivery key) =
        hands.countP (succeeds key) ∧
      (hands.flatMap (·.exchanges most)).countP (notesFailure key) = hands.countP (fails key) := by
  induction hands with
  | nil => exact ⟨rfl, rfl⟩
  | cons hand hands ih =>
      obtain ⟨delivery, failure⟩ := hand.countP_exchanges most key
      simp only [List.flatMap_cons, List.countP_append, List.countP_cons, ih, delivery, failure,
        Nat.add_comm, and_self]

end HandOver

/-- What the hand-overs of an email come to. -/
structure Row.Handled (most : Nat) (hands : List HandOver) (row : Row) : Prop where
  bounded : hands.countP (·.email.key = row.key) ≤ most
  delivered : hands.countP (HandOver.succeeds row.key) = if row.status = .sent then 1 else 0
  attempted : hands.countP (HandOver.fails row.key) = row.attempts
  failed : row.status = .failed ↔ row.attempts = most

theorem Row.Accounts.handled {most : Nat} {told : List (Exchange post)} {row : Row}
    {hands : List HandOver} (accounts : row.Accounts most told)
    (delivered : told.countP (notesDelivery row.key) = hands.countP (HandOver.succeeds row.key))
    (attempted : told.countP (notesFailure row.key) = hands.countP (HandOver.fails row.key)) :
    row.Handled most hands := by
  have deliveries := delivered.symm.trans accounts.delivered
  have failures := attempted.symm.trans accounts.attempted
  refine ⟨?_, deliveries, failures, accounts.failed⟩
  rw [HandOver.countP_key, deliveries, failures]
  have bounded := accounts.bounded
  -- The hand-over that delivers an email is one more than those that were counted as attempts.
  split
  · rename_i sent
    have unfailed : row.attempts ≠ most := fun last => by
      cases sent.symm.trans (accounts.failed.2 last)
    omega
  · omega

section Flushed

variable {policy : Policy} {depot after : Depot} {hands : List HandOver}
variable {asked : List (Exchange post)} {result : Except Fault Tally}

theorem Flushed.handOvers_eq (flushed : Flushed policy depot hands asked result after) :
    handOvers asked = hands := by
  have claimed : asked.flatMap claims = hands.map (·.email) := by
    rw [flushed.asked, List.flatMap_cons, HandOver.claims_exchanges, List.append_nil]
    rfl
  have answered : asked.filterMap answer? = hands.map (·.answer) := by
    rw [flushed.asked, List.filterMap_cons_none rfl, HandOver.answer?_exchanges]
  rw [handOvers, claimed, answered, List.zipWith_map, List.zipWith_self, List.map_id']

/-- A flush costs the waiting emails an attempt at least, if there are any. -/
theorem Flushed.attemptsLeft_le (flushed : Flushed policy depot hands asked result after)
    (positive : 0 < policy.batchSize) :
    after.attemptsLeft policy.maxAttempts ≤ depot.attemptsLeft policy.maxAttempts - 1 := by
  have fewer := flushed.fewer
  have claimed := flushed.claimed
  rcases Nat.eq_zero_or_pos depot.waiting.length with none | some
  · have nothing : depot.attemptsLeft policy.maxAttempts = 0 := by
      rw [Depot.attemptsLeft, List.eq_nil_of_length_eq_zero none]
      rfl
    omega
  · omega

end Flushed

section Enqueued

variable {recipient subject body : String} {letter : Letter} {depot after : Depot}
variable {asked : List (Exchange post)} {result : Except Fault EmailKey}

/-- A letter holds the recipient in normal form, and the other texts as they are. -/
theorem Letter.texts_of_make (made : Letter.make recipient subject body = .ok letter) :
    letter.recipient.text = String.ofList (Address.normal recipient.toList) ∧
      letter.subject = subject ∧ letter.body = body := by
  unfold Letter.make at made
  split at made
  · cases made
  rename_i address addressed
  split at made
  · cases made
  rename_i label labelled
  cases made
  refine ⟨?_, congrArg Label.text ((Label.make_eq_ok_iff _ _).1 labelled).2, rfl⟩
  unfold Address.make at addressed
  dsimp only at addressed
  split at addressed
  · cases addressed
  · cases addressed
    rfl

theorem run_enqueue (course : Course (enqueue recipient subject body) asked (.done result))
    (run : Run Depot.fulfil depot asked after) :
    ((∃ fault, result = .error fault) ∧ asked = [] ∧ after = depot) ∨
      ∃ letter key, Letter.make recipient subject body = .ok letter ∧ result = .ok key ∧
        asked = [⟨.enqueue letter, .ok key⟩] ∧ after = depot.enqueue key letter := by
  unfold enqueue at course
  split at course
  · rename_i fault refused
    obtain ⟨rfl, ended⟩ := course_done_iff.1 course
    cases ended
    exact .inl ⟨⟨fault, rfl⟩, rfl, run_nil_iff.1 run⟩
  · rename_i letter made
    obtain ⟨reply, later, rfl, ended⟩ := course.of_ask_done
    obtain ⟨rfl, done⟩ := course_done_iff.1 ended
    cases done
    obtain ⟨between, fulfilled, rest⟩ := run_cons_iff.1 run
    cases run_nil_iff.1 rest
    rcases result with fault | key
    · exact absurd fulfilled.2 Bool.false_ne_true
    · exact .inr ⟨letter, key, made, rfl, rfl, fulfilled.1.2⟩

end Enqueued

theorem Depot.Accounts.run {most : Nat} {told asked : List (Exchange post)} {depot after : Depot}
    (accounts : depot.Accounts most told) (positive : 0 < most)
    (run : Run Depot.fulfil depot asked after)
    (shared : ∀ exchange ∈ asked, ¬ Stray most exchange) :
    after.Accounts most (told ++ asked) := by
  induction run generalizing told with
  | nil => rwa [List.append_nil]
  | cons replied onward ih =>
      obtain ⟨now, later⟩ := List.forall_mem_cons.1 shared
      have next := accounts.promise positive replied.1 now
      exact (ih next later).perm List.perm_middle.symm

/-- What is known of a queue after errands that were made one after the other. -/
structure Follows (most : Nat) (visits : List (Visit errands post)) (depot : Depot) : Prop where
  accounts : depot.Accounts most (visits.flatMap (·.asked))
  idle : depot.Idle
  queued : depot.queue.rows.map Row.texts = visits.filterMap queued?
  delivered : ∀ key, (visits.flatMap (·.asked)).countP (notesDelivery key) =
    (visits.flatMap fun visit => handOvers visit.asked).countP (HandOver.succeeds key)
  attempted : ∀ key, (visits.flatMap (·.asked)).countP (notesFailure key) =
    (visits.flatMap fun visit => handOvers visit.asked).countP (HandOver.fails key)

namespace Follows

variable {most : Nat} {policy : Policy} {visits : List (Visit errands post)}
variable {depot after : Depot} {asked : List (Exchange post)}

theorem empty : Follows most [] .empty where
  accounts := Depot.accounts_empty
  idle := List.forall_mem_nil _
  queued := rfl
  delivered _ := rfl
  attempted _ := rfl

theorem handled (follows : Follows most visits depot) {row : Row}
    (member : row ∈ depot.queue.rows) :
    row.Handled most (visits.flatMap fun visit => handOvers visit.asked) :=
  (follows.accounts.rows row member).handled (follows.delivered row.key)
    (follows.attempted row.key)

theorem lapse (follows : Follows most visits depot) (lapse : Depot.Lapse depot after) :
    Follows most visits after := by
  have accounts := follows.accounts.lapse lapse
  cases lapse with
  | token token => exact { follows with accounts := accounts }

/-- One more errand is followed if it keeps the accounts, leaves no lease behind, queues what it is
said to queue, and notes what it hands over. -/
theorem snoc (follows : Follows most visits depot) (positive : 0 < most)
    {visit : Visit errands post} (run : Run Depot.fulfil depot visit.asked after)
    (shared : ∀ exchange ∈ visit.asked, ¬ Stray most exchange) (idle : after.Idle)
    (queued : after.queue.rows.map Row.texts =
      depot.queue.rows.map Row.texts ++ (queued? visit).toList)
    (noted : ∀ key, visit.asked.countP (notesDelivery key) =
        (handOvers visit.asked).countP (HandOver.succeeds key) ∧
      visit.asked.countP (notesFailure key) =
        (handOvers visit.asked).countP (HandOver.fails key)) :
    Follows most (visits ++ [visit]) after := by
  have told : (visits ++ [visit]).flatMap (·.asked) = visits.flatMap (·.asked) ++ visit.asked := by
    simp
  have hands : (visits ++ [visit]).flatMap (fun visit => handOvers visit.asked) =
      (visits.flatMap fun visit => handOvers visit.asked) ++ handOvers visit.asked := by
    simp
  constructor
  · rw [told]
    exact follows.accounts.run positive run shared
  · exact idle
  · rw [queued, follows.queued, List.filterMap_append]
    cases found : queued? visit <;> simp [found]
  · intro key
    rw [told, hands, List.countP_append, List.countP_append, follows.delivered, (noted key).1]
  · intro key
    rw [told, hands, List.countP_append, List.countP_append, follows.attempted, (noted key).2]

theorem snoc_enqueue (follows : Follows most visits depot) (positive : 0 < most)
    {recipient subject body : String} {result : Except Fault EmailKey}
    (course : Course (enqueue recipient subject body) asked (.done result))
    (run : Run Depot.fulfil depot asked after) :
    Follows most (visits ++ [⟨.enqueue recipient subject body, asked, result⟩]) after := by
  have shared := (course_enqueue course).2 most
  refine follows.snoc positive run shared ?_ ?_ ?_
  · rcases run_enqueue course run with ⟨_, _, rfl⟩ | ⟨letter, key, _, _, _, rfl⟩
    · exact follows.idle
    · refine List.forall_mem_append.2 ⟨follows.idle, List.forall_mem_singleton.2 rfl⟩
  · rcases run_enqueue course run with ⟨⟨fault, rfl⟩, _, rfl⟩ | ⟨letter, key, made, rfl, _, rfl⟩
    · exact (List.append_nil _).symm
    · obtain ⟨normal, verbatim, same⟩ := Letter.texts_of_make made
      simp [Depot.enqueue, Queue.enqueue, Row.texts, Row.fresh, queued?, normal, verbatim, same]
  · rcases run_enqueue course run with ⟨_, rfl, _⟩ | ⟨letter, key, _, _, rfl, _⟩
    · exact fun key => ⟨rfl, rfl⟩
    · exact fun key => ⟨rfl, rfl⟩

theorem run_flush (follows : Follows policy.maxAttempts visits depot)
    {result : Except Fault Tally} (course : Course (flush policy) asked (.done result))
    (run : Run Depot.fulfil depot asked after) :
    Flushed policy depot (handOvers asked) asked result after := by
  obtain ⟨hands, flushed⟩ := Email.run_flush follows.accounts follows.idle course run
  exact flushed.handOvers_eq.symm ▸ flushed

theorem snoc_flush (follows : Follows policy.maxAttempts visits depot)
    (positive : 0 < policy.maxAttempts) {result : Except Fault Tally}
    (course : Course (flush policy) asked (.done result))
    (run : Run Depot.fulfil depot asked after) :
    Follows policy.maxAttempts (visits ++ [⟨.flush policy, asked, result⟩]) after := by
  have flushed := follows.run_flush course run
  refine follows.snoc positive run (course_flush course).2 flushed.idle ?_ fun key => ?_
  · exact flushed.kept.trans (List.append_nil _).symm
  · obtain ⟨deliveries, failures⟩ := HandOver.countP_flatMap_exchanges key (handOvers asked)
    exact ⟨(congrArg (List.countP _) flushed.asked).trans deliveries,
      (congrArg (List.countP _) flushed.asked).trans failures⟩

end Follows

section Series

variable {policy : Policy} {visits later : List (Visit errands post)} {depot last : Depot}

theorem follows_of_series (positive : 0 < policy.maxAttempts)
    (series : Series runErrand Depot.fulfil Depot.Lapse .empty visits depot)
    (shared : ∀ visit ∈ visits, visit.call.Under policy) :
    Follows policy.maxAttempts visits depot := by
  induction series with
  | nil => exact .empty
  | @snoc between after earlier errand asked result series course run ih =>
      obtain ⟨before, now⟩ := List.forall_mem_append.1 shared
      have follows := ih before
      cases errand with
      | enqueue recipient subject body => exact follows.snoc_enqueue positive course run
      | flush other =>
          have same : other = policy := now ⟨.flush other, asked, result⟩ List.mem_cons_self
          cases same
          exact follows.snoc_flush positive course run
  | drift series lapse ih => exact (ih shared).lapse lapse

theorem Errand.under_of_flush {visit : Visit errands post} (flushing : visit.call = .flush policy) :
    visit.call.Under policy :=
  flushing.symm ▸ rfl

/-- Each flush costs an attempt at least, as long as there are any left. -/
theorem attemptsLeft_of_series (accepted : policy.check = .ok policy)
    (series : Series runErrand Depot.fulfil Depot.Lapse .empty visits depot)
    (shared : ∀ visit ∈ visits, visit.call.Under policy)
    (flushes : Series runErrand Depot.fulfil Depot.Lapse depot later last)
    (flushing : ∀ visit ∈ later, visit.call = .flush policy) :
    last.attemptsLeft policy.maxAttempts ≤
      depot.attemptsLeft policy.maxAttempts - later.length := by
  obtain ⟨_, batch, positive, _⟩ := (Policy.check_eq_ok_iff _ _).1 accepted
  induction flushes with
  | nil => exact Nat.le_refl _
  | @snoc between after earlier errand asked result flushes course run ih =>
      obtain ⟨before, now⟩ := List.forall_mem_append.1 flushing
      have follows := follows_of_series positive (series.append flushes)
        (List.forall_mem_append.2 ⟨shared, fun visit member =>
          Errand.under_of_flush (before visit member)⟩)
      have same : errand = .flush policy := now ⟨errand, asked, result⟩ List.mem_cons_self
      cases same
      have fewer := (follows.run_flush course run).attemptsLeft_le batch
      have earlier := ih before
      rw [List.length_append, List.length_singleton]
      omega
  | drift flushes lapse ih =>
      cases lapse with
      | token token => exact ih flushing

/-- An email that waits has an attempt left. -/
theorem Follows.status_ne_pending {most : Nat} (follows : Follows most visits depot)
    (none : depot.attemptsLeft most = 0) {row : Row} (member : row ∈ depot.queue.rows) :
    row.status ≠ .pending := by
  intro waits
  have more := ((follows.accounts.rows row member).of_pending waits).2
  have counted : row.attemptsLeft most ≤ depot.attemptsLeft most := by
    rw [Depot.attemptsLeft_eq]
    exact List.le_sum_of_mem (List.mem_map_of_mem member)
  rw [none, Row.attemptsLeft, if_pos waits] at counted
  omega

/-- Over a queue that fails no call, and whatever the sender answers: the queue holds what was
accepted; what was handed over of each email accounts for how it stands; the next flush hands over
the oldest of what waits, and costs attempts; and flushes that are as many as the attempts left
leave nothing that waits. -/
theorem queue_drains (accepted : policy.check = .ok policy)
    (series : Series runErrand Depot.fulfil Depot.Lapse .empty visits depot)
    (shared : ∀ visit ∈ visits, visit.call.Under policy) :
    depot.queue.rows.map Row.texts = visits.filterMap queued? ∧
      (∀ row ∈ depot.queue.rows,
        row.Handled policy.maxAttempts (visits.flatMap fun visit => handOvers visit.asked)) ∧
      (∀ asked rest after, (flush policy).Course asked rest → Run Depot.fulfil depot asked after →
        asked.length ≤ 1 + 2 * min policy.batchSize depot.waiting.length ∧
          ∀ result, rest = .done result →
            Flushed policy depot (handOvers asked) asked result after) ∧
      ∀ later last, Series runErrand Depot.fulfil Depot.Lapse depot later last →
        (∀ visit ∈ later, visit.call = .flush policy) →
        depot.attemptsLeft policy.maxAttempts ≤ later.length →
        last.queue.rows.map Row.texts = depot.queue.rows.map Row.texts ∧
          ∀ row ∈ last.queue.rows, row.status ≠ .pending ∧
            row.Handled policy.maxAttempts
              ((visits ++ later).flatMap fun visit => handOvers visit.asked) := by
  obtain ⟨_, batch, positive, _⟩ := (Policy.check_eq_ok_iff _ _).1 accepted
  have follows := follows_of_series positive series shared
  refine ⟨follows.queued, fun row member => follows.handled member,
    fun asked rest after course run => ⟨length_flush follows.idle course run, ?_⟩, ?_⟩
  · rintro result rfl
    exact follows.run_flush course run
  intro later last flushes flushing enough
  have under := List.forall_mem_append.2 ⟨shared, fun visit member =>
    Errand.under_of_flush (flushing visit member)⟩
  have final := follows_of_series positive (series.append flushes) under
  have none : last.attemptsLeft policy.maxAttempts = 0 := by
    have left := attemptsLeft_of_series accepted series shared flushes flushing
    omega
  refine ⟨?_, fun row member => ⟨final.status_ne_pending none member, final.handled member⟩⟩
  have unqueued : later.filterMap queued? = [] := by
    refine List.filterMap_eq_nil_iff.2 fun visit member => ?_
    obtain ⟨errand, asked, result⟩ := visit
    cases (flushing _ member : errand = _)
    rfl
  rw [final.queued, follows.queued, List.filterMap_append, unqueued, List.append_nil]

end Series

/-- A queue that keeps its promises, and a sender that does not reach one of the recipients. -/
def serveAllBut (lost : String) : Server post Depot
  | .send recipient _ _ _, depot =>
      (if recipient = lost then .error (.internal "no such mailbox") else .ok (), depot)
  | request, depot => Depot.oblige request depot

theorem fulfil_serveAllBut (lost : String) (request : post.Request) (depot : Depot)
    (answers : depot.answers ⟨request, (serveAllBut lost request depot).1⟩ = true) :
    Depot.fulfil request depot (serveAllBut lost request depot).1
      (serveAllBut lost request depot).2 := by
  refine ⟨?_, answers⟩
  cases request with
  | send recipient subject body html => exact rfl
  | enqueue letter => exact Depot.promise_oblige (.enqueue letter) depot
  | claim limit leaseSeconds => exact Depot.promise_oblige (.claim limit leaseSeconds) depot
  | markSent key token => exact Depot.promise_oblige (.markSent key token) depot
  | recordFailure key token reason maxAttempts =>
      exact Depot.promise_oblige (.recordFailure key token reason maxAttempts) depot

def letters : List Errand :=
  [.enqueue "bob@reef.org" "Tide" "high", .enqueue " Ann@Reef.org" "Tide" ""]

def flushes : List Errand := List.replicate 4 (.flush ⟨1, 2, 60⟩)

/-- Two letters are queued. -/
def backlog : List (Visit errands post) × Depot :=
  visitEach runErrand (serveAllBut "bob@reef.org") letters .empty

/-- They are flushed one by one, with two attempts each. The first of them stays in front until it
is given up. -/
def drained : List (Visit errands post) × Depot :=
  visitEach runErrand (serveAllBut "bob@reef.org") flushes backlog.2

theorem backlog_drains :
    drained.2.queue.rows.map (fun row => (row.letter.recipient.text, row.status, row.attempts)) =
        [("bob@reef.org", .failed, 2), ("ann@reef.org", .sent, 0)] ∧
      ∀ row ∈ drained.2.queue.rows, row.status ≠ .pending ∧
        row.Handled 2 ((backlog.1 ++ drained.1).flatMap fun visit => handOvers visit.asked) := by
  have facts : visitsPass Depot.answers runErrand (serveAllBut "bob@reef.org") letters .empty ∧
      visitsPass Depot.answers runErrand (serveAllBut "bob@reef.org") flushes backlog.2 ∧
      backlog.2.attemptsLeft 2 ≤ 4 ∧
      drained.2.queue.rows.map (fun row => (row.letter.recipient.text, row.status, row.attempts)) =
        [("bob@reef.org", .failed, 2), ("ann@reef.org", .sent, 0)] := by
    decide +kernel
  obtain ⟨queuing, flushing, enough, final⟩ := facts
  have queued : Series runErrand Depot.fulfil Depot.Lapse .empty backlog.1 backlog.2 :=
    series_of_visitsPass (fulfil_serveAllBut "bob@reef.org") queuing
  have flushed : Series runErrand Depot.fulfil Depot.Lapse backlog.2 drained.1 drained.2 :=
    series_of_visitsPass (fulfil_serveAllBut "bob@reef.org") flushing
  have shared : ∀ visit ∈ backlog.1, visit.call.Under ⟨1, 2, 60⟩ := by
    simp [backlog, letters, visitEach, Errand.Under]
  have flushing : ∀ visit ∈ drained.1, visit.call = .flush ⟨1, 2, 60⟩ := by
    simp [drained, flushes, visitEach, List.replicate]
  have drains := (queue_drains (by decide) queued shared).2.2.2 drained.1 drained.2 flushed flushing
    enough
  exact ⟨final, drains.2⟩

end ClubOffice.Email
