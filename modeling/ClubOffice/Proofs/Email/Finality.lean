import ClubOffice.Proofs.Email.Accounts

/-!
# Emails that are settled for good

Emails stay in the queue, and their letters stay as they are. An email that is sent or has failed
does not change any more, and it is not claimed or settled again.
-/

namespace ClubOffice.Email

open Post

/-- How an email can stand later on. -/
structure Row.Becomes (row after : Row) : Prop where
  key : after.key = row.key
  letter : after.letter = row.letter
  attempts : row.attempts ≤ after.attempts
  final : row.status ≠ .pending → after = row

namespace Row.Becomes

variable {row next last : Row}

theorem refl (row : Row) : row.Becomes row := ⟨rfl, rfl, Nat.le_refl _, fun _ => rfl⟩

theorem trans (first : row.Becomes next) (second : next.Becomes last) : row.Becomes last where
  key := second.key.trans first.key
  letter := second.letter.trans first.letter
  attempts := Nat.le_trans first.attempts second.attempts
  final done := by
    have same := first.final done
    exact (second.final (same ▸ done)).trans same

end Row.Becomes

namespace Depot

variable {depot after : Depot} {request : post.Request} {reply : post.Reply request} {row : Row}

theorem becomes_change {found : Row} (distinct : (depot.queue.rows.map (·.key)).Nodup)
    (member : row ∈ depot.queue.rows) (present : found ∈ depot.queue.rows) {change : Row → Row}
    (becomes : found.Becomes (change found)) :
    ∃ later ∈ (depot.change found.key change).queue.rows, row.Becomes later := by
  have rows (later : Row) := Keyed.mem_change_iff distinct present change later
  by_cases same : row.key = found.key
  · cases Keyed.eq_of_key distinct member present same
    exact ⟨change row, (rows _).2 (.inl rfl), becomes⟩
  · exact ⟨row, (rows _).2 (.inr ⟨member, same⟩), .refl row⟩

/-- No request takes an email away, or changes one that is sent or has failed. -/
theorem promise_becomes (distinct : (depot.queue.rows.map (·.key)).Nodup)
    (promised : promise request depot reply after) (member : row ∈ depot.queue.rows) :
    ∃ later ∈ after.queue.rows, row.Becomes later := by
  have stays : ∃ later ∈ depot.queue.rows, row.Becomes later := ⟨row, member, .refl row⟩
  cases request with
  | enqueue letter =>
      rcases reply with fault | key
      · cases (promised : after = depot)
        exact stays
      · obtain ⟨_, rfl⟩ := (promised : _ ∧ after = depot.enqueue key letter)
        exact ⟨row, List.mem_append_left _ member, .refl row⟩
  | claim limit leaseSeconds =>
      rcases reply with fault | claimed
      · cases (promised : after = depot)
        exact stays
      · obtain ⟨tokens, _, _, _, leased⟩ := promised
        cases leased
        rcases mem_leaseRows member with there | ⟨free, token, there⟩
        · exact ⟨row, there, .refl row⟩
        · exact ⟨_, there, rfl, rfl, Nat.le_refl _,
            fun done => absurd (available_iff.1 free).1 done⟩
  | send recipient subject body html =>
      cases (promised : after = depot)
      exact stays
  | markSent key token =>
      rcases promise_markSent promised with
        ⟨found, present, rfl, held, _, rfl⟩ | ⟨rfl, _⟩ | ⟨rfl, _⟩
      · exact becomes_change distinct member present
          ⟨rfl, rfl, Nat.le_refl _, fun done => absurd (Row.heldBy_iff.1 held).1 done⟩
      · exact stays
      · exact stays
  | recordFailure key token reason maxAttempts =>
      rcases promise_recordFailure promised with
        ⟨found, present, rfl, held, _, rfl⟩ | ⟨rfl, _⟩ | ⟨rfl, _⟩
      · exact becomes_change distinct member present
          ⟨rfl, rfl, Nat.le_succ _, fun done => absurd (Row.heldBy_iff.1 held).1 done⟩
      · exact stays
      · exact stays

/-- An email that is sent or has failed is neither leased nor settled. -/
theorem untouched_of_final (distinct : (depot.queue.rows.map (·.key)).Nodup)
    (promised : promise request depot reply after) (member : row ∈ depot.queue.rows)
    (done : row.status ≠ .pending) : touches row.key ⟨request, reply⟩ = false := by
  have differs {other : Row} (present : other ∈ depot.queue.rows)
      (waits : other.status = .pending) : other.key ≠ row.key := by
    intro same
    cases Keyed.eq_of_key distinct present member same
    exact done waits
  cases request with
  | enqueue letter => rfl
  | claim limit leaseSeconds =>
      rcases reply with fault | claimed
      · rfl
      · obtain ⟨tokens, _, _, _, leased⟩ := promised
        cases leased
        refine Bool.or_eq_false_iff.2 ⟨List.any_eq_false.2 fun lease member => ?_, rfl⟩
        obtain ⟨email, claimed, rfl⟩ := List.mem_map.1 member
        obtain ⟨other, present, free, same, _⟩ := claimed_leaseRows claimed
        have found : email.key = other.key := congrArg Claimed.key same
        simpa [found] using differs present (available_iff.1 free).1
  | send recipient subject body html => rfl
  | markSent key token =>
      rcases promise_markSent promised with
        ⟨found, present, rfl, held, rfl, _⟩ | ⟨_, fault, rfl⟩ | ⟨_, rfl, _⟩
      · simpa [touches, granted, settled?] using differs present (Row.heldBy_iff.1 held).1
      · rfl
      · rfl
  | recordFailure key token reason maxAttempts =>
      rcases promise_recordFailure promised with
        ⟨found, present, rfl, held, rfl, _⟩ | ⟨_, fault, rfl⟩ | ⟨_, rfl, _⟩
      · simpa [touches, granted, settled?] using differs present (Row.heldBy_iff.1 held).1
      · rfl
      · rfl

end Depot

end ClubOffice.Email
