import ClubOffice.Proofs.Email.Depot
import Mathlib.Data.List.Perm.Basic

/-!
# Accounts of an email queue

What was exchanged with a queue that was empty at first accounts for every email in it: it was
delivered once if it is sent and else never, its attempts are the failures that were noted, and a
lease that was given out and has not lapsed is either held still or was settled.
-/

namespace ClubOffice.Email

/-- A lease, by the key of the email and the token of the claim. -/
abbrev Lease := EmailKey × ClaimToken

namespace Post

/-- The leases that an exchange gave out. -/
def granted : Exchange post → List Lease
  | ⟨.claim _ _, .ok claimed⟩ => claimed.map fun email => (email.key, email.token)
  | _ => []

/-- The lease that an exchange was to settle, whatever came of it. -/
def settling? : Exchange post → Option Lease
  | ⟨.markSent key token, _⟩ => some (key, token)
  | ⟨.recordFailure key token _ _, _⟩ => some (key, token)
  | _ => none

/-- The lease that an exchange settled. -/
def settled? : Exchange post → Option Lease
  | ⟨.markSent key token, .ok true⟩ => some (key, token)
  | ⟨.recordFailure key token _ _, .ok (some _)⟩ => some (key, token)
  | _ => none

/-- The lease that an exchange was to settle when it was not held any more. -/
def refused? : Exchange post → Option Lease
  | ⟨.markSent key token, .ok false⟩ => some (key, token)
  | ⟨.recordFailure key token _ _, .ok none⟩ => some (key, token)
  | _ => none

/-- Whether an exchange noted the delivery of the email of a key. -/
def notesDelivery (key : EmailKey) : Exchange post → Bool
  | ⟨.markSent other _, .ok true⟩ => other = key
  | _ => false

/-- Whether an exchange noted a failed attempt to deliver the email of a key. -/
def notesFailure (key : EmailKey) : Exchange post → Bool
  | ⟨.recordFailure other _ _ _, .ok (some _)⟩ => other = key
  | _ => false

/-- Whether an exchange is a failure that is noted under another bound on the attempts. -/
def Stray (most : Nat) : Exchange post → Prop
  | ⟨.recordFailure _ _ _ maxAttempts, _⟩ => maxAttempts ≠ most
  | _ => False

/-- Whether an exchange gave out a lease of the email of a key, or settled one. -/
def touches (key : EmailKey) (exchange : Exchange post) : Bool :=
  (granted exchange).any (·.1 = key) || (settled? exchange).any (·.1 = key)

theorem settling?_of_settled? {exchange : Exchange post} {lease : Lease}
    (settled : settled? exchange = some lease) : settling? exchange = some lease := by
  unfold settled? at settled
  split at settled
  · exact settled
  · exact settled
  · cases settled

theorem settling?_of_refused? {exchange : Exchange post} {lease : Lease}
    (refused : refused? exchange = some lease) : settling? exchange = some lease := by
  unfold refused? at refused
  split at refused
  · exact refused
  · exact refused
  · cases refused

theorem granted_of_settling? {exchange : Exchange post} {lease : Lease}
    (settling : settling? exchange = some lease) : granted exchange = [] := by
  unfold settling? at settling
  split at settling
  · rfl
  · rfl
  · cases settling

theorem quiet_of_settled?_eq_none {exchange : Exchange post} (none : settled? exchange = none)
    (key : EmailKey) : notesDelivery key exchange = false ∧ notesFailure key exchange = false := by
  obtain ⟨request, reply⟩ := exchange
  cases request with
  | enqueue letter => exact ⟨rfl, rfl⟩
  | claim limit leaseSeconds => exact ⟨rfl, rfl⟩
  | send recipient subject body html => exact ⟨rfl, rfl⟩
  | markSent other token =>
      rcases reply with fault | _ | _
      · exact ⟨rfl, rfl⟩
      · exact ⟨rfl, rfl⟩
      · cases none
  | recordFailure other token reason maxAttempts =>
      rcases reply with fault | _ | status
      · exact ⟨rfl, rfl⟩
      · exact ⟨rfl, rfl⟩
      · cases none

theorem quiet_of_settled?_eq_some {exchange : Exchange post} {lease : Lease}
    (some : settled? exchange = some lease) {key : EmailKey} (other : lease.1 ≠ key) :
    notesDelivery key exchange = false ∧ notesFailure key exchange = false := by
  obtain ⟨request, reply⟩ := exchange
  cases request with
  | enqueue letter => exact ⟨rfl, rfl⟩
  | claim limit leaseSeconds => exact ⟨rfl, rfl⟩
  | send recipient subject body html => exact ⟨rfl, rfl⟩
  | markSent same token =>
      rcases reply with fault | _ | _
      · exact ⟨rfl, rfl⟩
      · exact ⟨rfl, rfl⟩
      · cases some
        exact ⟨decide_eq_false other, rfl⟩
  | recordFailure same token reason maxAttempts =>
      rcases reply with fault | _ | status
      · exact ⟨rfl, rfl⟩
      · exact ⟨rfl, rfl⟩
      · cases some
        exact ⟨rfl, decide_eq_false other⟩

theorem countP_of_quiet {exchange : Exchange post} {key : EmailKey}
    (quiet : notesDelivery key exchange = false ∧ notesFailure key exchange = false)
    (told : List (Exchange post)) :
    (exchange :: told).countP (notesDelivery key) = told.countP (notesDelivery key) ∧
      (exchange :: told).countP (notesFailure key) = told.countP (notesFailure key) :=
  ⟨List.countP_cons_of_neg (by simp [quiet.1]), List.countP_cons_of_neg (by simp [quiet.2])⟩

theorem flatMap_granted_cons {exchange : Exchange post} (ungranted : granted exchange = [])
    (told : List (Exchange post)) : (exchange :: told).flatMap granted = told.flatMap granted := by
  rw [List.flatMap_cons, ungranted, List.nil_append]

end Post

open Post

variable {most : Nat} {told told' : List (Exchange post)} {exchange : Exchange post}

/-- What was exchanged accounts for an email of the queue. -/
structure Row.Accounts (most : Nat) (told : List (Exchange post)) (row : Row) : Prop where
  delivered : told.countP (notesDelivery row.key) = if row.status = .sent then 1 else 0
  attempted : told.countP (notesFailure row.key) = row.attempts
  bounded : row.attempts ≤ most
  failed : row.status = .failed ↔ row.attempts = most
  idle : row.status ≠ .pending → row.token = none
  leased : ∀ token, row.token = some token → (row.key, token) ∈ told.flatMap granted

/-- What was exchanged accounts for the emails of a queue and for its leases. -/
structure Depot.Accounts (most : Nat) (told : List (Exchange post)) (depot : Depot) : Prop where
  distinct : (depot.queue.rows.map (·.key)).Nodup
  rows : ∀ row ∈ depot.queue.rows, row.Accounts most told
  unknown : ∀ key ∉ depot.queue.rows.map (·.key),
    told.countP (notesDelivery key) = 0 ∧ told.countP (notesFailure key) = 0
  given : ∀ lease ∈ told.flatMap granted, lease.2 ∈ depot.given
  once : ((told.flatMap granted).map (·.2)).Nodup
  held : ∀ lease ∈ told.flatMap granted, lease.2 ∉ depot.lapsed →
    (∃ row ∈ depot.queue.rows, row.key = lease.1 ∧ row.token = some lease.2) ∨
      lease ∈ told.filterMap settled?

theorem Row.Accounts.perm {row : Row} (accounts : row.Accounts most told) (same : told.Perm told') :
    row.Accounts most told' where
  delivered := (same.countP_eq _).symm.trans accounts.delivered
  attempted := (same.countP_eq _).symm.trans accounts.attempted
  bounded := accounts.bounded
  failed := accounts.failed
  idle := accounts.idle
  leased token held := (same.flatMap_right _).mem_iff.1 (accounts.leased token held)

theorem Row.Accounts.cons {row : Row} (accounts : row.Accounts most told)
    (quiet : notesDelivery row.key exchange = false ∧ notesFailure row.key exchange = false) :
    row.Accounts most (exchange :: told) where
  delivered := (countP_of_quiet quiet told).1.trans accounts.delivered
  attempted := (countP_of_quiet quiet told).2.trans accounts.attempted
  bounded := accounts.bounded
  failed := accounts.failed
  idle := accounts.idle
  leased token held := List.mem_append_right _ (accounts.leased token held)

/-- An email that waits was not delivered, and may be tried once more. -/
theorem Row.Accounts.of_pending {row : Row} (accounts : row.Accounts most told)
    (waits : row.status = .pending) :
    told.countP (notesDelivery row.key) = 0 ∧ row.attempts < most := by
  have unfailed : row.attempts ≠ most := fun last => by
    cases waits.symm.trans (accounts.failed.2 last)
  exact ⟨accounts.delivered.trans (if_neg (by simp [waits])),
    Nat.lt_of_le_of_ne accounts.bounded unfailed⟩

namespace Depot

variable {depot : Depot}

theorem accounts_empty : empty.Accounts most [] where
  distinct := .nil
  rows := List.forall_mem_nil _
  unknown _ _ := ⟨rfl, rfl⟩
  given := List.forall_mem_nil _
  once := .nil
  held := List.forall_mem_nil _

theorem Accounts.perm (accounts : depot.Accounts most told) (same : told.Perm told') :
    depot.Accounts most told' := by
  have grants := same.flatMap_right granted
  constructor
  · exact accounts.distinct
  · exact fun row member => (accounts.rows row member).perm same
  · intro key absent
    rw [← same.countP_eq, ← same.countP_eq]
    exact accounts.unknown key absent
  · exact fun lease member => accounts.given lease (grants.mem_iff.2 member)
  · exact (grants.map _).nodup_iff.1 accounts.once
  · intro lease member live
    rw [← (same.filterMap settled?).mem_iff]
    exact accounts.held lease (grants.mem_iff.2 member) live

theorem Accounts.unknown_cons (accounts : depot.Accounts most told) {key : EmailKey}
    (absent : key ∉ depot.queue.rows.map (·.key))
    (quiet : notesDelivery key exchange = false ∧ notesFailure key exchange = false) :
    (exchange :: told).countP (notesDelivery key) = 0 ∧
      (exchange :: told).countP (notesFailure key) = 0 := by
  obtain ⟨undelivered, unfailed⟩ := accounts.unknown key absent
  obtain ⟨deliveries, failures⟩ := countP_of_quiet quiet told
  exact ⟨deliveries.trans undelivered, failures.trans unfailed⟩

theorem Accounts.lapse {after : Depot} (accounts : depot.Accounts most told)
    (lapse : Lapse depot after) : after.Accounts most told := by
  cases lapse with
  | token token =>
      refine { accounts with held := fun lease member live => ?_ }
      exact accounts.held lease member fun lapsed => live (List.mem_cons_of_mem token lapsed)

theorem Accounts.cons (accounts : depot.Accounts most told) (ungranted : granted exchange = [])
    (unsettled : settled? exchange = none) : depot.Accounts most (exchange :: told) := by
  have grants := flatMap_granted_cons ungranted told
  constructor
  · exact accounts.distinct
  · exact fun row member =>
      (accounts.rows row member).cons (quiet_of_settled?_eq_none unsettled row.key)
  · intro key absent
    exact accounts.unknown_cons absent (quiet_of_settled?_eq_none unsettled key)
  · rw [grants]
    exact accounts.given
  · rw [grants]
    exact accounts.once
  · rw [grants, List.filterMap_cons_none unsettled]
    exact accounts.held

theorem Accounts.enqueue (accounts : depot.Accounts most told) (positive : 0 < most)
    {key : EmailKey} (fresh : key ∉ depot.queue.rows.map (·.key)) (letter : Letter)
    (ungranted : granted exchange = []) (unsettled : settled? exchange = none) :
    (depot.enqueue key letter).Accounts most (exchange :: told) := by
  have before := accounts.cons ungranted unsettled
  have rows : (depot.enqueue key letter).queue.rows = depot.queue.rows ++ [.fresh key letter] := rfl
  obtain ⟨undelivered, unfailed⟩ := before.unknown key fresh
  constructor
  · rw [rows, List.map_append]
    refine before.distinct.append (List.nodup_singleton _) ?_
    simpa [Row.fresh] using fresh
  · intro row member
    rw [rows] at member
    rcases List.mem_append.1 member with old | new
    · exact before.rows row old
    · cases List.mem_singleton.1 new
      exact
        { delivered := undelivered
          attempted := unfailed
          bounded := Nat.zero_le most
          failed := by
            refine ⟨(fun failed => nomatch failed), fun zero => ?_⟩
            exact absurd zero (Nat.ne_of_lt positive)
          idle := fun _ => rfl
          leased := fun token held => nomatch held }
  · intro other absent
    rw [rows, List.map_append] at absent
    exact before.unknown other fun known => absent (List.mem_append_left _ known)
  · exact before.given
  · exact before.once
  · intro lease member live
    refine (before.held lease member live).imp ?_ id
    rintro ⟨row, present, same⟩
    exact ⟨row, rows ▸ List.mem_append_left _ present, same⟩

theorem Accounts.lease (accounts : depot.Accounts most told) {tokens : List ClaimToken}
    (distinct : tokens.Nodup) (fresh : ∀ token ∈ tokens, token ∉ depot.given)
    (grants : granted exchange =
      (depot.lease tokens).1.map fun email => (email.key, email.token))
    (unsettled : settled? exchange = none) :
    (depot.lease tokens).2.Accounts most (exchange :: told) := by
  have newTokens : ((granted exchange).map (·.2)).Sublist tokens := by
    rw [grants, List.map_map]
    exact tokens_leaseRows
  constructor
  · exact keys_leaseRows.symm ▸ accounts.distinct
  · intro after member
    have quiet := quiet_of_settled?_eq_none unsettled
    rcases of_mem_leaseRows member with same | ⟨row, present, free, token, rfl, claimed⟩
    · exact (accounts.rows after same).cons (quiet after.key)
    · have old := (accounts.rows row present).cons (quiet row.key)
      have waits := (available_iff.1 free).1
      refine { old with idle := fun other => absurd waits other, leased := fun new held => ?_ }
      cases held
      refine List.mem_append_left _ ?_
      rw [grants]
      exact List.mem_map_of_mem claimed
  · intro key absent
    exact accounts.unknown_cons (keys_leaseRows ▸ absent) (quiet_of_settled?_eq_none unsettled key)
  · intro lease member
    rcases List.mem_append.1 member with new | old
    · exact List.mem_append_left _ (newTokens.subset (List.mem_map_of_mem new))
    · exact List.mem_append_right _ (accounts.given lease old)
  · rw [List.flatMap_cons, List.map_append]
    refine (newTokens.nodup distinct).append accounts.once ?_
    intro token new old
    obtain ⟨lease, member, rfl⟩ := List.mem_map.1 old
    exact fresh lease.2 (newTokens.subset new) (accounts.given lease member)
  · intro lease member live
    rw [List.filterMap_cons_none unsettled]
    rcases List.mem_append.1 member with new | old
    · rw [grants] at new
      obtain ⟨email, claimed, rfl⟩ := List.mem_map.1 new
      obtain ⟨row, _, _, same, there⟩ := claimed_leaseRows claimed
      exact .inl ⟨_, there, (congrArg Claimed.key same).symm, rfl⟩
    · refine (accounts.held lease old live).imp ?_ id
      rintro ⟨row, present, same, token⟩
      rcases mem_leaseRows present with there | ⟨free, _⟩
      · exact ⟨row, there, same, token⟩
      · exact absurd ((available_iff.1 free).2 lease.2 token) live

/-- Settling a lease that is held keeps the accounts, if those of its email are kept and the lease
is given up. -/
theorem Accounts.settle (accounts : depot.Accounts most told) {row : Row}
    (member : row ∈ depot.queue.rows) {token : ClaimToken} (held : row.token = some token)
    {change : Row → Row} (keeps : ∀ row, (change row).key = row.key)
    (ungranted : granted exchange = []) (settled : settled? exchange = some (row.key, token))
    (changed : (change row).Accounts most (exchange :: told)) :
    (depot.change row.key change).Accounts most (exchange :: told) := by
  have grants := flatMap_granted_cons ungranted told
  have keys : (depot.change row.key change).queue.rows.map (·.key) =
      depot.queue.rows.map (·.key) := Keyed.map_change row.key keeps _
  have rows (other : Row) : other ∈ (depot.change row.key change).queue.rows ↔
      other = change row ∨ other ∈ depot.queue.rows ∧ other.key ≠ row.key :=
    Keyed.mem_change_iff accounts.distinct member change other
  constructor
  · rw [keys]
    exact accounts.distinct
  · intro other present
    rcases (rows other).1 present with rfl | ⟨present, differs⟩
    · exact changed
    · exact (accounts.rows other present).cons (quiet_of_settled?_eq_some settled differs.symm)
  · intro key absent
    rw [keys] at absent
    have differs : row.key ≠ key := by
      rintro rfl
      exact absent (List.mem_map_of_mem member)
    exact accounts.unknown_cons absent (quiet_of_settled?_eq_some settled differs)
  · rw [grants]
    exact accounts.given
  · rw [grants]
    exact accounts.once
  · intro lease granted live
    rw [grants] at granted
    rw [List.filterMap_cons_some settled]
    -- The email holds one lease, which is settled now; other leases are held by other emails.
    rcases accounts.held lease granted live with ⟨holder, present, same, holds⟩ | already
    · by_cases this : holder.key = row.key
      · cases Keyed.eq_of_key accounts.distinct present member this
        have here : lease = (row.key, token) :=
          Prod.ext same.symm (Option.some.inj (holds.symm.trans held))
        exact .inr (here ▸ List.mem_cons_self)
      · exact .inl ⟨holder, (rows holder).2 (.inr ⟨present, this⟩), same, holds⟩
    · exact .inr (List.mem_cons_of_mem _ already)

theorem Accounts.deliver (accounts : depot.Accounts most told) {row : Row}
    (member : row ∈ depot.queue.rows) {token : ClaimToken} (held : row.heldBy token = true) :
    (depot.change row.key Row.delivered).Accounts most
      (⟨.markSent row.key token, .ok true⟩ :: told) := by
  obtain ⟨waits, holds⟩ := Row.heldBy_iff.1 held
  have old := accounts.rows row member
  refine accounts.settle member holds (fun _ => rfl) rfl rfl ?_
  obtain ⟨undelivered, more⟩ := old.of_pending waits
  exact
    { delivered := by
        rw [List.countP_cons_of_pos (by exact decide_eq_true rfl)]
        exact congrArg (· + 1) undelivered
      attempted := by
        rw [List.countP_cons_of_neg (by exact Bool.false_ne_true)]
        exact old.attempted
      bounded := old.bounded
      failed := ⟨fun failed => (nomatch failed), fun last => absurd last (Nat.ne_of_lt more)⟩
      idle := fun _ => rfl
      leased := fun token held => nomatch held }

theorem Accounts.fail (accounts : depot.Accounts most told) {row : Row}
    (member : row ∈ depot.queue.rows) {token : ClaimToken} (held : row.heldBy token = true)
    (reason : String) :
    (depot.change row.key (·.attempted reason most)).Accounts most
      (⟨.recordFailure row.key token reason most,
        .ok (some (row.attempted reason most).status)⟩ :: told) := by
  obtain ⟨waits, holds⟩ := Row.heldBy_iff.1 held
  have old := accounts.rows row member
  refine accounts.settle member holds (fun _ => rfl) rfl rfl ?_
  obtain ⟨undelivered, more⟩ := old.of_pending waits
  exact
    { delivered := by
        rw [List.countP_cons_of_neg (by exact Bool.false_ne_true)]
        refine undelivered.trans (if_neg ?_).symm
        unfold Row.attempted
        split <;> exact fun sent => nomatch sent
      attempted := by
        rw [List.countP_cons_of_pos (by exact decide_eq_true rfl)]
        exact congrArg (· + 1) old.attempted
      bounded := more
      failed := by
        change (if most ≤ row.attempts + 1 then Status.failed else .pending) = .failed ↔
          row.attempts + 1 = most
        by_cases last : most ≤ row.attempts + 1
        · rw [if_pos last]
          exact ⟨fun _ => by omega, fun _ => rfl⟩
        · rw [if_neg last]
          exact ⟨fun failed => (nomatch failed), fun same => absurd (Nat.le_of_eq same.symm) last⟩
      idle := fun _ => rfl
      leased := fun token held => nomatch held }

/-- A queue that keeps its promises keeps its accounts, if failures are noted under one bound. -/
theorem Accounts.promise {after : Depot} (accounts : depot.Accounts most told) (positive : 0 < most)
    {request : post.Request} {reply : post.Reply request}
    (promised : promise request depot reply after) (shared : ¬ Stray most ⟨request, reply⟩) :
    after.Accounts most (⟨request, reply⟩ :: told) := by
  cases request with
  | enqueue letter =>
      rcases reply with fault | key
      · cases (promised : after = depot)
        exact accounts.cons rfl rfl
      · obtain ⟨fresh, rfl⟩ := (promised : _ ∧ after = depot.enqueue key letter)
        exact accounts.enqueue positive fresh letter rfl rfl
  | claim limit leaseSeconds =>
      rcases reply with fault | claimed
      · cases (promised : after = depot)
        exact accounts.cons rfl rfl
      · obtain ⟨tokens, _, distinct, fresh, leased⟩ := promised
        cases leased
        exact accounts.lease distinct fresh rfl rfl
  | send recipient subject body html =>
      cases (promised : after = depot)
      exact accounts.cons rfl rfl
  | markSent key token =>
      rcases promise_markSent promised with
        ⟨row, member, rfl, held, rfl, rfl⟩ | ⟨rfl, fault, rfl⟩ | ⟨rfl, rfl, _⟩
      · exact accounts.deliver member held
      · exact accounts.cons rfl rfl
      · exact accounts.cons rfl rfl
  | recordFailure key token reason maxAttempts =>
      rcases promise_recordFailure promised with
        ⟨row, member, rfl, held, rfl, rfl⟩ | ⟨rfl, fault, rfl⟩ | ⟨rfl, rfl, _⟩
      · have same : maxAttempts = most := not_not.1 shared
        cases same
        exact accounts.fail member held reason
      · exact accounts.cons rfl rfl
      · exact accounts.cons rfl rfl

/-- A queue that keeps its promises refuses to settle a lease that was given out only if it has been
settled already or has lapsed. -/
theorem Accounts.lapsed_of_refused {after : Depot} (accounts : depot.Accounts most told)
    {request : post.Request} {reply : post.Reply request}
    (promised : Depot.promise request depot reply after) {lease : Lease}
    (refused : refused? ⟨request, reply⟩ = some lease) (given : lease ∈ told.flatMap granted)
    (unsettled : lease ∉ told.filterMap settled?) : lease.2 ∈ depot.lapsed := by
  by_contra live
  obtain ⟨row, member, same, holds⟩ := (accounts.held lease given live).resolve_right unsettled
  have waits : row.status = .pending := by_contra fun done => by
    cases holds.symm.trans ((accounts.rows row member).idle done)
  have held : row.heldBy lease.2 = true := Row.heldBy_iff.2 ⟨waits, holds⟩
  have lost : ∃ other ∈ depot.queue.rows, other.key = lease.1 ∧ other.heldBy lease.2 = false := by
    cases request with
    | enqueue letter => cases refused
    | claim limit leaseSeconds => cases refused
    | send recipient subject body html => cases refused
    | markSent key token =>
        rcases promise_markSent promised with
          ⟨_, _, _, _, rfl, _⟩ | ⟨_, _, rfl⟩ | ⟨_, rfl, other, present, found, lost⟩
        · cases refused
        · cases refused
        · cases refused
          exact ⟨other, present, found, lost⟩
    | recordFailure key token reason maxAttempts =>
        rcases promise_recordFailure promised with
          ⟨_, _, _, _, rfl, _⟩ | ⟨_, _, rfl⟩ | ⟨_, rfl, other, present, found, lost⟩
        · cases refused
        · cases refused
        · cases refused
          exact ⟨other, present, found, lost⟩
  obtain ⟨other, present, found, lost⟩ := lost
  cases Keyed.eq_of_key accounts.distinct member present (same.trans found.symm)
  exact Bool.false_ne_true (lost.symm.trans held)

end Depot

end ClubOffice.Email
