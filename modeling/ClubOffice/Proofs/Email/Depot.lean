import ClubOffice.Email.Flush
import ClubOffice.Proofs.Keyed
import ClubOffice.Plan.Interleaving

/-!
# Queues whose leases lapse

What an email queue promises to those who flush it. A claim leases emails that wait and have no
live lease, the oldest first, under tokens that were never given out before. A lease that lapses
leaves its token where it is; until the email is claimed again, the holder of the token can still
settle it. A call on the queue may fail, and then it has no effect.
-/

namespace ClubOffice.Email

/-- Leases the rows that are available, from the first one on, as far as the tokens go. -/
def leaseRows (available : Row → Bool) : List ClaimToken → List Row → List Claimed × List Row
  | [], rows => ([], rows)
  | _ :: _, [] => ([], [])
  | token :: tokens, row :: rows =>
      if available row then
        (row.claimed token :: (leaseRows available tokens rows).1,
          { row with token := some token } :: (leaseRows available tokens rows).2)
      else
        ((leaseRows available (token :: tokens) rows).1,
          row :: (leaseRows available (token :: tokens) rows).2)

section LeaseRows

variable {available : Row → Bool} {tokens : List ClaimToken} {rows : List Row}

theorem keys_leaseRows :
    (leaseRows available tokens rows).2.map (·.key) = rows.map (·.key) := by
  fun_induction leaseRows available tokens rows with
  | case1 rows => rfl
  | case2 => rfl
  | case3 token tokens row rows free ih => exact congrArg (row.key :: ·) ih
  | case4 token tokens row rows taken ih => exact congrArg (row.key :: ·) ih

theorem tokens_leaseRows :
    ((leaseRows available tokens rows).1.map (·.token)).Sublist tokens := by
  fun_induction leaseRows available tokens rows with
  | case1 rows => exact .slnil
  | case2 token tokens => exact List.nil_sublist _
  | case3 token tokens row rows free ih => exact ih.cons_cons token
  | case4 token tokens row rows taken ih => exact ih

theorem of_mem_leaseRows {after : Row} (member : after ∈ (leaseRows available tokens rows).2) :
    after ∈ rows ∨ ∃ row ∈ rows, available row = true ∧ ∃ token,
      after = { row with token := some token } ∧
        row.claimed token ∈ (leaseRows available tokens rows).1 := by
  fun_induction leaseRows available tokens rows with
  | case1 rows => exact .inl member
  | case2 => cases member
  | case3 token tokens row rows free ih =>
      rcases List.mem_cons.1 member with rfl | later
      · exact .inr ⟨row, List.mem_cons_self, free, token, rfl, List.mem_cons_self⟩
      · rcases ih later with same | ⟨other, present, free, token, same, claimed⟩
        · exact .inl (List.mem_cons_of_mem row same)
        · exact .inr ⟨other, List.mem_cons_of_mem row present, free, token, same,
            List.mem_cons_of_mem _ claimed⟩
  | case4 token tokens row rows taken ih =>
      rcases List.mem_cons.1 member with rfl | later
      · exact .inl List.mem_cons_self
      · rcases ih later with same | ⟨other, present, rest⟩
        · exact .inl (List.mem_cons_of_mem row same)
        · exact .inr ⟨other, List.mem_cons_of_mem row present, rest⟩

theorem mem_leaseRows {row : Row} (member : row ∈ rows) :
    row ∈ (leaseRows available tokens rows).2 ∨ available row = true ∧
      ∃ token, { row with token := some token } ∈ (leaseRows available tokens rows).2 := by
  fun_induction leaseRows available tokens rows with
  | case1 rows => exact .inl member
  | case2 => cases member
  | case3 token tokens first rows free ih =>
      rcases List.mem_cons.1 member with rfl | later
      · exact .inr ⟨free, token, List.mem_cons_self⟩
      · rcases ih later with same | ⟨free, token, there⟩
        · exact .inl (List.mem_cons_of_mem _ same)
        · exact .inr ⟨free, token, List.mem_cons_of_mem _ there⟩
  | case4 token tokens first rows taken ih =>
      rcases List.mem_cons.1 member with rfl | later
      · exact .inl List.mem_cons_self
      · rcases ih later with same | ⟨free, token, there⟩
        · exact .inl (List.mem_cons_of_mem _ same)
        · exact .inr ⟨free, token, List.mem_cons_of_mem _ there⟩

theorem claimed_leaseRows {email : Claimed}
    (member : email ∈ (leaseRows available tokens rows).1) :
    ∃ row ∈ rows, available row = true ∧ email = row.claimed email.token ∧
      { row with token := some email.token } ∈ (leaseRows available tokens rows).2 := by
  fun_induction leaseRows available tokens rows with
  | case1 rows => cases member
  | case2 => cases member
  | case3 token tokens row rows free ih =>
      rcases List.mem_cons.1 member with rfl | later
      · exact ⟨row, List.mem_cons_self, free, rfl, List.mem_cons_self⟩
      · obtain ⟨other, present, free, same, there⟩ := ih later
        exact ⟨other, List.mem_cons_of_mem row present, free, same, List.mem_cons_of_mem _ there⟩
  | case4 token tokens row rows taken ih =>
      obtain ⟨other, present, free, same, there⟩ := ih member
      exact ⟨other, List.mem_cons_of_mem row present, free, same, List.mem_cons_of_mem _ there⟩

end LeaseRows

theorem Row.heldBy_iff {row : Row} {token : ClaimToken} :
    row.heldBy token = true ↔ row.status = .pending ∧ row.token = some token := by
  simp [heldBy]

namespace Queue

variable {queue after : Queue} {key : EmailKey} {token : ClaimToken}

theorem of_find? {row : Row} (found : queue.find? key = some row) :
    row ∈ queue.rows ∧ row.key = key :=
  ⟨List.mem_of_find?_eq_some found, by simpa using List.find?_some found⟩

/-- A delivery is noted if the email is leased to the token; otherwise nothing changes. -/
theorem markSent_cases {answer : Bool} (marked : queue.markSent key token = (.ok answer, after)) :
    ∃ row ∈ queue.rows, row.key = key ∧
      (row.heldBy token = true ∧ answer = true ∧ after = queue.change key Row.delivered ∨
        row.heldBy token = false ∧ answer = false ∧ after = queue) := by
  unfold markSent at marked
  cases found : queue.find? key with
  | none =>
      rw [found] at marked
      cases marked
  | some row =>
      rw [found] at marked
      refine ⟨row, (of_find? found).1, (of_find? found).2, ?_⟩
      cases held : row.heldBy token with
      | true =>
          simp only [held, if_true] at marked
          cases marked
          exact .inl ⟨rfl, rfl, rfl⟩
      | false =>
          simp only [held, Bool.false_eq_true, if_false] at marked
          cases marked
          exact .inr ⟨rfl, rfl, rfl⟩

theorem recordFailure_cases {reason : String} {maxAttempts : Nat} {answer : Option Status}
    (noted : queue.recordFailure key token reason maxAttempts = (.ok answer, after)) :
    ∃ row ∈ queue.rows, row.key = key ∧
      (row.heldBy token = true ∧ answer = some (row.attempted reason maxAttempts).status ∧
          after = queue.change key (·.attempted reason maxAttempts) ∨
        row.heldBy token = false ∧ answer = none ∧ after = queue) := by
  unfold recordFailure at noted
  cases found : queue.find? key with
  | none =>
      rw [found] at noted
      cases noted
  | some row =>
      rw [found] at noted
      refine ⟨row, (of_find? found).1, (of_find? found).2, ?_⟩
      cases held : row.heldBy token with
      | true =>
          simp only [held, if_true] at noted
          cases noted
          exact .inl ⟨rfl, rfl, rfl⟩
      | false =>
          simp only [held, Bool.false_eq_true, if_false] at noted
          cases noted
          exact .inr ⟨rfl, rfl, rfl⟩

end Queue

/-- A queue with the tokens that were given out, and those of them whose leases have lapsed. -/
structure Depot where
  queue : Queue
  given : List ClaimToken
  lapsed : List ClaimToken

namespace Depot

def empty : Depot := ⟨.empty, [], []⟩

def available (depot : Depot) (row : Row) : Bool :=
  row.status = .pending && row.token.all (· ∈ depot.lapsed)

theorem available_iff {depot : Depot} {row : Row} :
    depot.available row = true ↔
      row.status = .pending ∧ ∀ token, row.token = some token → token ∈ depot.lapsed := by
  simp [available, Option.all_eq_true]

def enqueue (depot : Depot) (key : EmailKey) (letter : Letter) : Depot :=
  { depot with queue := depot.queue.enqueue key letter }

def lease (depot : Depot) (tokens : List ClaimToken) : List Claimed × Depot :=
  ((leaseRows depot.available tokens depot.queue.rows).1,
    ⟨⟨(leaseRows depot.available tokens depot.queue.rows).2⟩, tokens ++ depot.given, depot.lapsed⟩)

def change (depot : Depot) (key : EmailKey) (change : Row → Row) : Depot :=
  { depot with queue := depot.queue.change key change }

/-- The leases of a token lapse. -/
inductive Lapse : Depot → Depot → Prop
  | token (depot : Depot) (token : ClaimToken) :
      Lapse depot { depot with lapsed := token :: depot.lapsed }

/-- What a queue that keeps its promises does with a request. Deliveries may end in any way. -/
def promise : Manner post Depot
  | .enqueue letter, depot, .ok key, after =>
      key ∉ depot.queue.rows.map (·.key) ∧ after = depot.enqueue key letter
  | .claim limit _, depot, .ok claimed, after =>
      ∃ tokens : List ClaimToken, tokens.length ≤ limit ∧ tokens.Nodup ∧
        (∀ token ∈ tokens, token ∉ depot.given) ∧ (claimed, after) = depot.lease tokens
  | .markSent key token, depot, .ok answer, after =>
      depot.queue.markSent key token = (.ok answer, after.queue) ∧
        after = { depot with queue := after.queue }
  | .recordFailure key token reason maxAttempts, depot, .ok answer, after =>
      depot.queue.recordFailure key token reason maxAttempts = (.ok answer, after.queue) ∧
        after = { depot with queue := after.queue }
  | _, depot, _, after => after = depot

theorem promise_markSent {depot after : Depot} {key : EmailKey} {token : ClaimToken}
    {reply : Except Fault Bool} (promised : promise (.markSent key token) depot reply after) :
    (∃ row ∈ depot.queue.rows, row.key = key ∧ row.heldBy token = true ∧ reply = .ok true ∧
        after = depot.change key Row.delivered) ∨
      after = depot ∧ (∃ fault, reply = .error fault) ∨
      after = depot ∧ reply = .ok false ∧
        ∃ row ∈ depot.queue.rows, row.key = key ∧ row.heldBy token = false := by
  rcases reply with fault | answer
  · exact .inr (.inl ⟨promised, fault, rfl⟩)
  · obtain ⟨marked, kept⟩ := promised
    obtain ⟨row, member, same, ⟨held, rfl, changed⟩ | ⟨lost, rfl, unchanged⟩⟩ :=
      Queue.markSent_cases marked
    · rw [changed] at kept
      exact .inl ⟨row, member, same, held, rfl, kept⟩
    · rw [unchanged] at kept
      exact .inr (.inr ⟨kept, rfl, row, member, same, lost⟩)

theorem promise_recordFailure {depot after : Depot} {key : EmailKey} {token : ClaimToken}
    {reason : String} {maxAttempts : Nat} {reply : Except Fault (Option Status)}
    (promised : promise (.recordFailure key token reason maxAttempts) depot reply after) :
    (∃ row ∈ depot.queue.rows, row.key = key ∧ row.heldBy token = true ∧
        reply = .ok (some (row.attempted reason maxAttempts).status) ∧
        after = depot.change key (·.attempted reason maxAttempts)) ∨
      after = depot ∧ (∃ fault, reply = .error fault) ∨
      after = depot ∧ reply = .ok none ∧
        ∃ row ∈ depot.queue.rows, row.key = key ∧ row.heldBy token = false := by
  rcases reply with fault | answer
  · exact .inr (.inl ⟨promised, fault, rfl⟩)
  · obtain ⟨noted, kept⟩ := promised
    obtain ⟨row, member, same, ⟨held, rfl, changed⟩ | ⟨lost, rfl, unchanged⟩⟩ :=
      Queue.recordFailure_cases noted
    · rw [changed] at kept
      exact .inl ⟨row, member, same, held, rfl, kept⟩
    · rw [unchanged] at kept
      exact .inr (.inr ⟨kept, rfl, row, member, same, lost⟩)

/-- Only time lets leases lapse. -/
theorem lapsed_promise {depot after : Depot} {request : post.Request}
    {reply : post.Reply request} (promised : promise request depot reply after) :
    after.lapsed = depot.lapsed := by
  cases request with
  | enqueue letter =>
      rcases reply with fault | key
      · exact congrArg lapsed (promised : after = depot)
      · obtain ⟨_, rfl⟩ := (promised : _ ∧ after = depot.enqueue key letter)
        rfl
  | claim limit leaseSeconds =>
      rcases reply with fault | claimed
      · exact congrArg lapsed (promised : after = depot)
      · obtain ⟨tokens, _, _, _, leased⟩ := promised
        exact congrArg (lapsed ∘ Prod.snd) leased
  | send recipient subject body html => exact congrArg lapsed (promised : after = depot)
  | markSent key token =>
      rcases promise_markSent promised with ⟨_, _, _, _, _, rfl⟩ | ⟨rfl, _⟩ | ⟨rfl, _⟩
      · rfl
      · rfl
      · rfl
  | recordFailure key token reason maxAttempts =>
      rcases promise_recordFailure promised with ⟨_, _, _, _, _, rfl⟩ | ⟨rfl, _⟩ | ⟨rfl, _⟩
      · rfl
      · rfl
      · rfl

/-- A queue that keeps its promises as long as its keys and tokens are fresh, and whose deliveries
all succeed. -/
def oblige : Server post Depot
  | .enqueue letter, depot =>
      let key : EmailKey := ⟨.ofNat depot.queue.rows.length⟩
      if key ∉ depot.queue.rows.map (·.key) then (.ok key, depot.enqueue key letter)
      else (.error (.internal "key taken"), depot)
  | .claim limit _, depot =>
      let tokens : List ClaimToken := (Supply.takeMany limit ⟨depot.given.length⟩).1.map Key.mk
      if tokens.length ≤ limit ∧ tokens.Nodup ∧ ∀ token ∈ tokens, token ∉ depot.given then
        (.ok (depot.lease tokens).1, (depot.lease tokens).2)
      else (.error (.internal "token taken"), depot)
  | .send _ _ _ _, depot => (.ok (), depot)
  | .markSent key token, depot =>
      match depot.queue.markSent key token with
      | (.ok answer, queue) => (.ok answer, { depot with queue := queue })
      | (.error fault, _) => (.error fault, depot)
  | .recordFailure key token reason maxAttempts, depot =>
      match depot.queue.recordFailure key token reason maxAttempts with
      | (.ok answer, queue) => (.ok answer, { depot with queue := queue })
      | (.error fault, _) => (.error fault, depot)

theorem promise_oblige (request : post.Request) (depot : Depot) :
    promise request depot (oblige request depot).1 (oblige request depot).2 := by
  cases request with
  | enqueue letter =>
      simp only [oblige]
      split
      · rename_i fresh
        exact ⟨fresh, rfl⟩
      · exact rfl
  | claim limit leaseSeconds =>
      simp only [oblige]
      split
      · rename_i fits
        exact ⟨_, fits.1, fits.2.1, fits.2.2, rfl⟩
      · exact rfl
  | send recipient subject body html => exact rfl
  | markSent key token =>
      simp only [oblige]
      rcases marked : depot.queue.markSent key token with ⟨_ | answer, queue⟩
      · exact rfl
      · exact ⟨marked, rfl⟩
  | recordFailure key token reason maxAttempts =>
      simp only [oblige]
      rcases noted : depot.queue.recordFailure key token reason maxAttempts with
        ⟨_ | answer, queue⟩
      · exact rfl
      · exact ⟨noted, rfl⟩

end Depot

end ClubOffice.Email
