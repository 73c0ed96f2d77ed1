import ClubOffice.Proofs.Email.Accounts
import ClubOffice.Proofs.Plan.Course
import ClubOffice.Proofs.Plan.Run
import Mathlib.Algebra.Order.Ring.Nat

/-!
# Flushes that nothing disturbs

A queue that fails no call, and whose leases do not lapse while a flush is under way, lets the flush
settle all that it claims. The flush hands each email of its claim to the sender once; whatever the
sender answers, the email is left with fewer attempts than before, or it is done with.
-/

namespace ClubOffice.Email

open Manner Plan

section LeaseRows

variable {available : Row → Bool} {tokens : List ClaimToken} {rows : List Row}

/-- The claimed emails are the first of the available ones, as far as the tokens go. -/
theorem forall₂_leaseRows :
    List.Forall₂ (fun email row => ∃ token, email = row.claimed token)
      (leaseRows available tokens rows).1 ((rows.filter available).take tokens.length) := by
  fun_induction leaseRows available tokens rows with
  | case1 rows => exact .nil
  | case2 => exact .nil
  | case3 token tokens row rows free ih =>
      rw [List.filter_cons_of_pos free]
      exact .cons ⟨token, rfl⟩ ih
  | case4 token tokens row rows taken ih =>
      rw [List.filter_cons_of_neg taken]
      exact ih

/-- A claim changes nothing but the tokens. -/
theorem map_leaseRows {β : Type} {view : Row → β}
    (blind : ∀ row token, view { row with token := some token } = view row) :
    (leaseRows available tokens rows).2.map view = rows.map view := by
  fun_induction leaseRows available tokens rows with
  | case1 rows => rfl
  | case2 => rfl
  | case3 token tokens row rows free ih => rw [List.map_cons, List.map_cons, blind, ih]
  | case4 token tokens row rows taken ih => rw [List.map_cons, List.map_cons, ih]

end LeaseRows

/-- The key and the texts of an email. -/
def Row.texts (row : Row) : EmailKey × String × String × String :=
  (row.key, row.letter.recipient.text, row.letter.subject, row.letter.body)

/-- An email that is handed to the sender, and what the sender answers. -/
structure HandOver where
  email : Claimed
  answer : Except Fault Unit

namespace HandOver

/-- The texts of the email are handed over, without a second body. -/
def sending (hand : HandOver) : Exchange post :=
  ⟨.send hand.email.recipient hand.email.subject hand.email.body none, hand.answer⟩

/-- The outcome is noted, and the email is still leased to the claim. -/
def settlement (most : Nat) : HandOver → Exchange post
  | ⟨email, .ok ()⟩ => ⟨.markSent email.key email.token, .ok true⟩
  | ⟨email, .error failure⟩ =>
      ⟨.recordFailure email.key email.token failure.message most,
        .ok (some (if most ≤ email.attempts + 1 then .failed else .pending))⟩

def exchanges (most : Nat) (hand : HandOver) : List (Exchange post) :=
  [hand.sending, hand.settlement most]

def change (most : Nat) : HandOver → Row → Row
  | ⟨_, .ok ()⟩ => Row.delivered
  | ⟨_, .error failure⟩ => (·.attempted failure.message most)

theorem key_change (most : Nat) (hand : HandOver) (row : Row) :
    (hand.change most row).key = row.key := by
  obtain ⟨email, _ | _⟩ := hand <;> rfl

theorem texts_change (most : Nat) (hand : HandOver) (row : Row) :
    (hand.change most row).texts = row.texts := by
  obtain ⟨email, _ | _⟩ := hand <;> rfl

theorem token_change (most : Nat) (hand : HandOver) (row : Row) :
    (hand.change most row).token = none := by
  obtain ⟨email, _ | _⟩ := hand <;> rfl

end HandOver

/-- The attempts that an email has left as long as it waits. -/
def Row.attemptsLeft (most : Nat) (row : Row) : Nat :=
  if row.status = .pending then most - row.attempts else 0

theorem HandOver.attemptsLeft_change {most : Nat} {row : Row} (waits : row.status = .pending)
    (more : row.attempts < most) (hand : HandOver) :
    (hand.change most row).attemptsLeft most < row.attemptsLeft most := by
  have now : row.attemptsLeft most = most - row.attempts := if_pos waits
  rw [now]
  obtain ⟨email, failure | _⟩ := hand
  · by_cases last : most ≤ row.attempts + 1
    · simpa [change, Row.attemptsLeft, Row.attempted, last] using Nat.sub_pos_of_lt more
    · simp only [change, Row.attemptsLeft, Row.attempted, if_neg last, if_true]
      omega
  · exact Nat.sub_pos_of_lt more

namespace Depot

variable {most : Nat} {depot after : Depot}

def waiting (depot : Depot) : List Row := depot.queue.rows.filter (·.status = .pending)

/-- The attempts that the waiting emails have left, all in all. -/
def attemptsLeft (most : Nat) (depot : Depot) : Nat :=
  (depot.waiting.map fun row => most - row.attempts).sum

theorem attemptsLeft_eq (most : Nat) (depot : Depot) :
    depot.attemptsLeft most = (depot.queue.rows.map (Row.attemptsLeft most)).sum := by
  unfold attemptsLeft waiting
  induction depot.queue.rows with
  | nil => rfl
  | cons row rows ih =>
      by_cases waits : row.status = .pending
      · simp [waits, Row.attemptsLeft, ih]
      · simp [waits, Row.attemptsLeft, ih]

/-- Whether no email is leased. -/
def Idle (depot : Depot) : Prop := ∀ row ∈ depot.queue.rows, row.token = none

theorem Idle.filter_available (idle : depot.Idle) :
    depot.queue.rows.filter depot.available = depot.waiting := by
  refine List.filter_congr fun row member => ?_
  simp [available, idle row member]

/-- Whether an exchange is one of a queue that fails no call, and that gives out as many emails as
it has and as are asked for. -/
def answers (depot : Depot) : Exchange post → Bool
  | ⟨.enqueue _, .ok _⟩ => true
  | ⟨.claim limit _, .ok claimed⟩ =>
      claimed.length = min limit (depot.queue.rows.countP depot.available)
  | ⟨.send _ _ _ _, _⟩ => true
  | ⟨.markSent _ _, .ok _⟩ => true
  | ⟨.recordFailure _ _ _ _, .ok _⟩ => true
  | _ => false

/-- What a queue does that keeps its promises and fails no call. Deliveries may still end in any
way. -/
def fulfil : Manner post Depot := fun request depot reply after =>
  promise request depot reply after ∧ depot.answers ⟨request, reply⟩ = true

theorem fulfil_claim {limit leaseSeconds : Nat} {reply : Except Fault (List Claimed)}
    (fulfilled : fulfil (.claim limit leaseSeconds) depot reply after) :
    ∃ tokens : List ClaimToken, tokens.length ≤ limit ∧
      reply = .ok (depot.lease tokens).1 ∧ after = (depot.lease tokens).2 ∧
      (depot.lease tokens).1.length = min limit (depot.queue.rows.countP depot.available) := by
  rcases reply with fault | claimed
  · exact absurd fulfilled.2 Bool.false_ne_true
  · obtain ⟨⟨tokens, few, _, _, leased⟩, full⟩ := fulfilled
    cases leased
    exact ⟨tokens, few, rfl, rfl, of_decide_eq_true full⟩

theorem map_change {β : Type} {view : Row → β} (key : EmailKey) {change : Row → Row}
    (keeps : ∀ row, view (change row) = view row) (depot : Depot) :
    (depot.change key change).queue.rows.map view = depot.queue.rows.map view := by
  refine List.map_map.trans (List.map_congr_left fun row _ => ?_)
  simp only [Function.comp_apply]
  split
  · exact keeps row
  · rfl

/-- Whether an email is leased to its claim, with an attempt left. -/
def Leases (most : Nat) (depot : Depot) (email : Claimed) : Prop :=
  ∃ row ∈ depot.queue.rows, row.key = email.key ∧ row.heldBy email.token = true ∧
    row.attempts = email.attempts ∧ row.attempts < most

theorem Leases.change {email : Claimed} (leases : depot.Leases most email) {key : EmailKey}
    (other : email.key ≠ key) (change : Row → Row) :
    (depot.change key change).Leases most email := by
  obtain ⟨row, member, same, rest⟩ := leases
  refine ⟨row, List.mem_map.2 ⟨row, member, if_neg ?_⟩, same, rest⟩
  exact same ▸ other

/-- A queue that fails no call notes the outcome of a delivery whose email is leased. -/
theorem fulfil_markSent {email : Claimed} {reply : Except Fault Bool}
    (distinct : (depot.queue.rows.map (·.key)).Nodup) (leases : depot.Leases most email)
    (fulfilled : fulfil (.markSent email.key email.token) depot reply after) :
    reply = .ok true ∧ after = depot.change email.key Row.delivered := by
  obtain ⟨row, member, same, held, _⟩ := leases
  rcases promise_markSent fulfilled.1 with
    ⟨_, _, _, _, rfl, rfl⟩ | ⟨_, fault, rfl⟩ | ⟨_, rfl, other, present, found, lost⟩
  · exact ⟨rfl, rfl⟩
  · exact absurd fulfilled.2 Bool.false_ne_true
  · cases Keyed.eq_of_key distinct member present (same.trans found.symm)
    exact absurd (lost.symm.trans held) Bool.false_ne_true

theorem fulfil_recordFailure {email : Claimed} {reason : String}
    {reply : Except Fault (Option Status)} (distinct : (depot.queue.rows.map (·.key)).Nodup)
    (leases : depot.Leases most email)
    (fulfilled : fulfil (.recordFailure email.key email.token reason most) depot reply after) :
    reply = .ok (some (if most ≤ email.attempts + 1 then .failed else .pending)) ∧
      after = depot.change email.key (·.attempted reason most) := by
  obtain ⟨row, member, same, held, tried, _⟩ := leases
  rcases promise_recordFailure fulfilled.1 with
    ⟨other, present, found, _, rfl, rfl⟩ | ⟨_, fault, rfl⟩ | ⟨_, rfl, other, present, found, lost⟩
  · cases Keyed.eq_of_key distinct member present (same.trans found.symm)
    exact ⟨tried ▸ rfl, rfl⟩
  · exact absurd fulfilled.2 Bool.false_ne_true
  · cases Keyed.eq_of_key distinct member present (same.trans found.symm)
    exact absurd (lost.symm.trans held) Bool.false_ne_true

/-- Notes the outcomes of deliveries. -/
def settle (most : Nat) (depot : Depot) (hands : List HandOver) : Depot :=
  hands.foldl (fun depot hand => depot.change hand.email.key (hand.change most)) depot

theorem map_settle {β : Type} {view : Row → β}
    (keeps : ∀ (hand : HandOver) row, view (hand.change most row) = view row) (depot : Depot)
    (hands : List HandOver) :
    (depot.settle most hands).queue.rows.map view = depot.queue.rows.map view := by
  induction hands generalizing depot with
  | nil => rfl
  | cons hand hands ih => exact (ih _).trans (map_change hand.email.key (keeps hand) depot)

/-- An email that is leased after all was so before, and its delivery is none of those noted. -/
theorem leased_of_settle {hands : List HandOver} {row : Row} {token : ClaimToken}
    (member : row ∈ (depot.settle most hands).queue.rows) (leased : row.token = some token) :
    row ∈ depot.queue.rows ∧ ∀ hand ∈ hands, hand.email.key ≠ row.key := by
  induction hands generalizing depot with
  | nil => exact ⟨member, List.forall_mem_nil _⟩
  | cons hand hands ih =>
      obtain ⟨present, others⟩ := ih member
      obtain ⟨earlier, there, same⟩ := List.mem_map.1 present
      split at same
      · rw [← same, HandOver.token_change] at leased
        cases leased
      · rename_i differs
        subst same
        exact ⟨there, List.forall_mem_cons.2 ⟨Ne.symm differs, others⟩⟩

theorem attemptsLeft_change {email : Claimed} (distinct : (depot.queue.rows.map (·.key)).Nodup)
    (leases : depot.Leases most email) (hand : HandOver) :
    (depot.change email.key (hand.change most)).attemptsLeft most < depot.attemptsLeft most := by
  obtain ⟨row, member, same, held, _, more⟩ := leases
  obtain ⟨before, later, split, changed⟩ := Keyed.exists_change distinct member
  have rows : (depot.change email.key (hand.change most)).queue.rows =
      before ++ hand.change most row :: later := same ▸ changed (hand.change most)
  have fewer := hand.attemptsLeft_change (Row.heldBy_iff.1 held).1 more
  rw [attemptsLeft_eq, attemptsLeft_eq, rows, split]
  simp only [List.map_append, List.map_cons, List.sum_append, List.sum_cons]
  omega

/-- Each of the deliveries costs an attempt at least. -/
theorem attemptsLeft_settle {hands : List HandOver}
    (distinct : (depot.queue.rows.map (·.key)).Nodup)
    (apart : (hands.map (·.email.key)).Nodup)
    (leased : ∀ hand ∈ hands, depot.Leases most hand.email) :
    (depot.settle most hands).attemptsLeft most + hands.length ≤ depot.attemptsLeft most := by
  induction hands generalizing depot with
  | nil => exact Nat.le_refl _
  | cons hand hands ih =>
      obtain ⟨leases, others⟩ := List.forall_mem_cons.1 leased
      obtain ⟨alone, apart⟩ := List.nodup_cons.1 apart
      have keys := map_change hand.email.key (hand.key_change most) depot
      have differs (other : HandOver) (member : other ∈ hands) :
          other.email.key ≠ hand.email.key := fun same =>
        alone (List.mem_map.2 ⟨other, member, same⟩)
      have onward := ih (keys ▸ distinct) apart fun other member =>
        (others other member).change (differs other member) (hand.change most)
      have first := attemptsLeft_change distinct leases hand
      have rest : (depot.settle most (hand :: hands)) =
        (depot.change hand.email.key (hand.change most)).settle most hands := rfl
      rw [rest, List.length_cons]
      omega

end Depot

open Depot

variable {most : Nat} {depot after : Depot} {asked : List (Exchange post)}

/-- A delivery of leased emails hands over the first of them and notes the outcome, and goes on to
the others. -/
theorem run_deliverEach_cons {email : Claimed} {emails : List Claimed} {tally : Tally}
    {result : Except Fault Tally} (distinct : (depot.queue.rows.map (·.key)).Nodup)
    (leases : depot.Leases most email)
    (course : Course (deliverEach most (email :: emails) tally) asked (.done result))
    (run : Run fulfil depot asked after) :
    ∃ (hand : HandOver) (next : Tally) (later : List (Exchange post)),
      hand.email = email ∧ asked = hand.exchanges most ++ later ∧ next.claimed = tally.claimed ∧
        Course (deliverEach most emails next) later (.done result) ∧
        Run fulfil (depot.change email.key (hand.change most)) later after := by
  obtain ⟨answer, settling, rfl, settles⟩ := course.of_ask_done
  obtain ⟨_, sent, noting⟩ := run_cons_iff.1 run
  cases (sent.1 : _ = depot)
  rcases answer with failure | ⟨⟩
  · obtain ⟨reply, later, rfl, onward⟩ := settles.of_ask_done
    obtain ⟨_, noted, rest⟩ := run_cons_iff.1 noting
    obtain ⟨rfl, rfl⟩ := fulfil_recordFailure distinct leases noted
    refine ⟨⟨email, .error failure⟩, tally.addFailure _, later, rfl, rfl, ?_, onward, rest⟩
    split <;> rfl
  · obtain ⟨reply, later, rfl, onward⟩ := settles.of_ask_done
    obtain ⟨_, noted, rest⟩ := run_cons_iff.1 noting
    obtain ⟨rfl, rfl⟩ := fulfil_markSent distinct leases noted
    exact ⟨⟨email, .ok ()⟩, tally.addSent, later, rfl, rfl, rfl, onward, rest⟩

/-- A delivery hands over each of its emails, in their order, and notes each outcome before the next
is handed over. -/
theorem run_deliverEach {emails : List Claimed} {tally : Tally} {result : Except Fault Tally}
    (distinct : (depot.queue.rows.map (·.key)).Nodup) (apart : (emails.map (·.key)).Nodup)
    (leased : ∀ email ∈ emails, depot.Leases most email)
    (course : Course (deliverEach most emails tally) asked (.done result))
    (run : Run fulfil depot asked after) :
    ∃ hands : List HandOver, hands.map (·.email) = emails ∧
      asked = hands.flatMap (·.exchanges most) ∧ after = depot.settle most hands ∧
      ∃ final : Tally, result = .ok final ∧ final.claimed = tally.claimed := by
  induction emails generalizing depot tally asked with
  | nil =>
      obtain ⟨rfl, ended⟩ := course_done_iff.1 course
      cases ended
      cases run_nil_iff.1 run
      exact ⟨[], rfl, rfl, rfl, tally, rfl, rfl⟩
  | cons email emails ih =>
      obtain ⟨leases, others⟩ := List.forall_mem_cons.1 leased
      obtain ⟨hand, next, later, rfl, rfl, same, onward, rest⟩ :=
        run_deliverEach_cons distinct leases course run
      obtain ⟨alone, apart⟩ := List.nodup_cons.1 apart
      have keys := map_change hand.email.key (hand.key_change most) depot
      have differs (other : Claimed) (member : other ∈ emails) : other.key ≠ hand.email.key :=
        fun same => alone (List.mem_map.2 ⟨other, member, same⟩)
      obtain ⟨hands, rfl, rfl, rfl, final, rfl, claimed⟩ :=
        ih (keys ▸ distinct) apart (fun other member =>
          (others other member).change (differs other member) _) onward rest
      exact ⟨hand :: hands, rfl, rfl, rfl, final, rfl, claimed.trans same⟩

/-- How a flush goes that finds the queue as it is: the oldest of the waiting emails are claimed, as
many as there are and as go into a batch, and each of them is handed to the sender once. -/
structure Flushed (policy : Policy) (depot : Depot) (hands : List HandOver)
    (asked : List (Exchange post)) (result : Except Fault Tally) (after : Depot) : Prop where
  claimed : hands.length = min policy.batchSize depot.waiting.length
  oldest : List.Forall₂ (fun hand row => ∃ token, hand.email = row.claimed token) hands
    (depot.waiting.take policy.batchSize)
  asked : asked = ⟨.claim policy.batchSize policy.leaseSeconds, .ok (hands.map (·.email))⟩ ::
    hands.flatMap (·.exchanges policy.maxAttempts)
  result : ∃ tally : Tally, result = .ok tally ∧ tally.claimed = hands.length
  fewer : after.attemptsLeft policy.maxAttempts + hands.length ≤
    depot.attemptsLeft policy.maxAttempts
  kept : after.queue.rows.map Row.texts = depot.queue.rows.map Row.texts
  idle : after.Idle

section Lease

variable {told : List (Exchange post)} (tokens : List ClaimToken)

theorem forall₂_lease (idle : depot.Idle) :
    List.Forall₂ (fun email row => ∃ token, email = row.claimed token) (depot.lease tokens).1
      (depot.waiting.take tokens.length) :=
  idle.filter_available ▸ forall₂_leaseRows

theorem nodup_lease (idle : depot.Idle) (distinct : (depot.queue.rows.map (·.key)).Nodup) :
    ((depot.lease tokens).1.map (·.key)).Nodup := by
  have keys : (depot.lease tokens).1.map (·.key) =
      (depot.waiting.take tokens.length).map (·.key) := by
    rw [← List.forall₂_eq_eq_eq, List.forall₂_map_left_iff, List.forall₂_map_right_iff]
    refine (forall₂_lease tokens idle).imp fun email row claimed => ?_
    obtain ⟨token, rfl⟩ := claimed
    rfl
  have among : (depot.waiting.take tokens.length).Sublist depot.queue.rows :=
    (List.take_sublist _ _).trans List.filter_sublist
  rw [keys]
  exact (among.map _).nodup distinct

theorem leases_lease (accounts : depot.Accounts most told) :
    ∀ email ∈ (depot.lease tokens).1, (depot.lease tokens).2.Leases most email := by
  intro email member
  obtain ⟨row, present, free, same, there⟩ := claimed_leaseRows member
  have waits := (available_iff.1 free).1
  have more := ((accounts.rows row present).of_pending waits).2
  exact ⟨_, there, (congrArg Claimed.key same).symm, Row.heldBy_iff.2 ⟨waits, rfl⟩,
    (congrArg Claimed.attempts same).symm, more⟩

theorem attemptsLeft_lease (most : Nat) (depot : Depot) :
    (depot.lease tokens).2.attemptsLeft most = depot.attemptsLeft most := by
  rw [attemptsLeft_eq, attemptsLeft_eq]
  exact congrArg List.sum (map_leaseRows fun _ _ => rfl)

/-- No email is leased any more once the outcomes of all claimed ones are noted. -/
theorem idle_settle (idle : depot.Idle) {hands : List HandOver}
    (all : hands.map (·.email) = (depot.lease tokens).1) :
    ((depot.lease tokens).2.settle most hands).Idle := by
  intro row member
  by_contra leased
  obtain ⟨token, leased⟩ := Option.ne_none_iff_exists'.1 leased
  obtain ⟨present, others⟩ := leased_of_settle member leased
  rcases of_mem_leaseRows present with same | ⟨earlier, _, _, new, rfl, claimed⟩
  · cases leased.symm.trans (idle row same)
  · obtain ⟨hand, given, same⟩ := List.mem_map.1 (all.symm ▸ claimed)
    exact others hand given (congrArg Claimed.key same)

end Lease

theorem run_flush {policy : Policy} {told : List (Exchange post)} {result : Except Fault Tally}
    (accounts : depot.Accounts policy.maxAttempts told) (idle : depot.Idle)
    (course : Course (flush policy) asked (.done result)) (run : Run fulfil depot asked after) :
    ∃ hands, Flushed policy depot hands asked result after := by
  obtain ⟨reply, delivering, rfl, delivers⟩ := course.of_ask_done
  obtain ⟨between, claiming, onward⟩ := run_cons_iff.1 run
  obtain ⟨tokens, few, rfl, rfl, full⟩ := fulfil_claim claiming
  have distinct : ((depot.lease tokens).2.queue.rows.map (·.key)).Nodup :=
    keys_leaseRows.symm ▸ accounts.distinct
  have leased := leases_lease tokens accounts
  have apart := nodup_lease tokens idle accounts.distinct
  obtain ⟨hands, all, rfl, rfl, tally, rfl, count⟩ :=
    run_deliverEach distinct apart leased delivers onward
  have oldest := forall₂_lease tokens idle
  rw [List.countP_eq_length_filter, idle.filter_available] at full
  have batch : depot.waiting.take tokens.length = depot.waiting.take policy.batchSize := by
    rw [List.take_eq_take_iff, ← full, ← List.length_take]
    exact oldest.length_eq.symm
  rw [← all, List.length_map] at full
  rw [← all, batch, List.forall₂_map_left_iff] at oldest
  exact ⟨hands,
    { claimed := full
      oldest := oldest
      asked := all ▸ rfl
      result := ⟨tally, rfl, count.trans (by rw [← all, List.length_map]; rfl)⟩
      fewer := by
        rw [← attemptsLeft_lease tokens policy.maxAttempts depot]
        refine attemptsLeft_settle distinct ?_ fun hand member => ?_
        · rw [← all, List.map_map] at apart
          exact apart
        · exact leased _ (all ▸ List.mem_map_of_mem member)
      kept := (map_settle (HandOver.texts_change policy.maxAttempts) _ _).trans
        (map_leaseRows fun _ _ => rfl)
      idle := idle_settle tokens idle all }⟩

/-- Two requests at most are made for an email before the next one, if the delivery goes on. -/
theorem course_deliverEach_cons {email : Claimed} {emails : List Claimed} {tally : Tally}
    {rest : Plan post (Except Fault Tally)}
    (course : Course (deliverEach most (email :: emails) tally) asked rest) :
    asked.length ≤ 2 ∨ ∃ (first second : Exchange post) (later : List (Exchange post))
      (next : Tally), asked = first :: second :: later ∧
        Course (deliverEach most emails next) later rest := by
  rcases course_ask_iff.1 course with ⟨rfl, _⟩ | ⟨answer, settling, rfl, settles⟩
  · exact .inl (Nat.zero_le 2)
  rcases answer with failure | ⟨⟩
  · rcases course_ask_iff.1 settles with ⟨rfl, _⟩ | ⟨reply, later, rfl, onward⟩
    · exact .inl (Nat.le_succ 1)
    rcases reply with fault | _ | status
    · obtain ⟨rfl, _⟩ := course_done_iff.1 onward
      exact .inl (Nat.le_refl 2)
    · exact .inr ⟨_, _, later, tally.addLeaseLost, rfl, onward⟩
    · exact .inr ⟨_, _, later, tally.addFailure status, rfl, onward⟩
  · rcases course_ask_iff.1 settles with ⟨rfl, _⟩ | ⟨reply, later, rfl, onward⟩
    · exact .inl (Nat.le_succ 1)
    rcases reply with fault | _ | _
    · obtain ⟨rfl, _⟩ := course_done_iff.1 onward
      exact .inl (Nat.le_refl 2)
    · exact .inr ⟨_, _, later, tally.addLeaseLost, rfl, onward⟩
    · exact .inr ⟨_, _, later, tally.addSent, rfl, onward⟩

theorem length_deliverEach {emails : List Claimed} {tally : Tally}
    {rest : Plan post (Except Fault Tally)}
    (course : Course (deliverEach most emails tally) asked rest) :
    asked.length ≤ 2 * emails.length := by
  induction emails generalizing tally asked with
  | nil =>
      obtain ⟨rfl, _⟩ := course_done_iff.1 course
      exact Nat.le_refl 0
  | cons email emails ih =>
      rw [List.length_cons]
      rcases course_deliverEach_cons course with short | ⟨first, second, later, next, rfl, onward⟩
      · omega
      · have bound := ih onward
        rw [List.length_cons, List.length_cons]
        omega

/-- A flush makes only so many calls. -/
theorem length_flush {policy : Policy} {rest : Plan post (Except Fault Tally)} (idle : depot.Idle)
    (course : Course (flush policy) asked rest) (run : Run fulfil depot asked after) :
    asked.length ≤ 1 + 2 * min policy.batchSize depot.waiting.length := by
  rcases course_ask_iff.1 course with ⟨rfl, _⟩ | ⟨reply, delivering, rfl, delivers⟩
  · exact Nat.zero_le _
  obtain ⟨between, claiming, _⟩ := run_cons_iff.1 run
  obtain ⟨tokens, _, rfl, _, full⟩ := fulfil_claim claiming
  rw [List.countP_eq_length_filter, idle.filter_available] at full
  rw [List.length_cons, ← full]
  have bound := length_deliverEach delivers
  omega

end ClubOffice.Email
