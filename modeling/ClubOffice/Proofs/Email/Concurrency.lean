import ClubOffice.Proofs.Email.Errands
import ClubOffice.Proofs.Email.Finality
import Mathlib.Data.List.Flatten

/-!
# Errands to the email queue side by side

Flushes and enqueues are under way at once, over a queue that was empty at first; their requests
reach it in any order, calls may fail, and leases lapse at any time. However stale the claims are
that the flushes hold, each email is settled under one lease at a time and at most once for good.
-/

namespace ClubOffice.Email

open Plan Crowd Post Relation

/-- The errands under way over a queue that was empty at first. -/
abbrev Reachable (made : List Errand) (crowd : Crowd errands post Depot) : Prop :=
  Crowd.Reachable runErrand Depot.promise Depot.Lapse made .empty crowd

variable {made : List Errand} {most : Nat} {crowd later : Crowd errands post Depot}

/-- Every attempt to settle is for a lease that was given out, and for each at most one is made. -/
theorem Reachable.settling_sublist (reachable : Reachable made crowd) :
    (crowd.exchanges.filterMap settling?).Sublist (crowd.exchanges.flatMap granted) := by
  unfold exchanges
  rw [List.filterMap_flatMap, List.flatMap_assoc]
  exact .flatMap_right _ fun running present =>
    (course_runErrand (Crowd.Reachable.course reachable present)).1

theorem Reachable.accounts (reachable : Reachable made crowd) (positive : 0 < most)
    (bounded : ∀ errand ∈ made, errand.Bounded most) :
    crowd.state.Accounts most crowd.exchanges := by
  induction reachable with
  | refl =>
      rw [exchanges_start]
      exact Depot.accounts_empty
  | tail reachable step ih =>
      have next : Reachable made _ := reachable.tail step
      cases step with
      | drift strands depot after lapse => exact ih.lapse lapse
      | exchange before after errand asked request onward depot depot' reply promised =>
          have same := (exchanges_perm before after errand asked ⟨request, reply⟩
            (.ask request onward) (onward reply) depot depot').symm
          have shared : ¬ Stray most ⟨request, reply⟩ :=
            Crowd.Reachable.forall_exchange next
              (fun errand known asked rest course =>
                (course_runErrand course).2 most (bounded errand known))
              _ (same.subset List.mem_cons_self)
          exact (ih.promise positive promised shared).perm same

theorem Reachable.settling_nodup (reachable : Reachable made crowd) (positive : 0 < most)
    (bounded : ∀ errand ∈ made, errand.Bounded most) :
    (crowd.exchanges.filterMap settling?).Nodup :=
  reachable.settling_sublist.nodup (.of_map _ (reachable.accounts positive bounded).once)

theorem Reachable.lapsed_of_refused (reachable : Reachable made crowd) (positive : 0 < most)
    (bounded : ∀ errand ∈ made, errand.Bounded most) :
    ∀ lease ∈ crowd.exchanges.filterMap refused?, lease.2 ∈ crowd.state.lapsed := by
  induction reachable with
  | refl =>
      rw [exchanges_start]
      exact List.forall_mem_nil _
  | tail reachable step ih =>
      have next : Reachable made _ := reachable.tail step
      cases step with
      | drift strands depot after lapse =>
          cases lapse with
          | token token => exact fun lease refused => List.mem_cons_of_mem token (ih lease refused)
      | exchange before after errand asked request onward depot depot' reply promised =>
          have same := (exchanges_perm before after errand asked ⟨request, reply⟩
            (.ask request onward) (onward reply) depot depot').symm
          intro lease refused
          refine (Depot.lapsed_promise promised).symm ▸ ?_
          rw [← (same.filterMap refused?).mem_iff] at refused
          -- A lease that is refused now has not been settled before, since it is tried only once.
          by_cases now : refused? ⟨request, reply⟩ = some lease
          · have settling := settling?_of_refused? now
            have nodup :=
              (same.filterMap settling?).nodup_iff.2 (next.settling_nodup positive bounded)
            rw [List.filterMap_cons_some settling, List.nodup_cons] at nodup
            have accounts := Reachable.accounts reachable positive bounded
            refine accounts.lapsed_of_refused promised now ?_ ?_
            · have given := next.settling_sublist.subset ((same.filterMap settling?).mem_iff.1
                (List.mem_filterMap.2 ⟨_, List.mem_cons_self, settling⟩))
              rw [← (same.flatMap_right granted).mem_iff, List.flatMap_cons,
                granted_of_settling? settling] at given
              exact given
            · intro settled
              obtain ⟨exchange, earlier, settled⟩ := List.mem_filterMap.1 settled
              exact nodup.1 (List.mem_filterMap.2
                ⟨exchange, earlier, settling?_of_settled? settled⟩)
          · rcases List.mem_filterMap.1 refused with ⟨exchange, member, refused⟩
            rcases List.mem_cons.1 member with rfl | earlier
            · exact absurd refused now
            · exact ih lease (List.mem_filterMap.2 ⟨exchange, earlier, refused⟩)

/-- From any crowd on, emails stay in the queue, and one that is sent or has failed stays as it is
and is not claimed or settled again. -/
theorem Reachable.becomes (reachable : Reachable made crowd) (positive : 0 < most)
    (bounded : ∀ errand ∈ made, errand.Bounded most)
    (onward : ReflTransGen (Step Depot.promise Depot.Lapse) crowd later) {row : Row}
    (member : row ∈ crowd.state.queue.rows) :
    ∃ after ∈ later.state.queue.rows, row.Becomes after ∧
      (row.status ≠ .pending →
        later.exchanges.countP (touches row.key) = crowd.exchanges.countP (touches row.key)) := by
  induction onward with
  | refl => exact ⟨row, member, .refl row, fun _ => rfl⟩
  | tail between step ih =>
      have distinct := (Reachable.accounts (reachable.trans between) positive bounded).distinct
      obtain ⟨next, present, becomes, untouched⟩ := ih
      cases step with
      | drift strands depot after lapse =>
          cases lapse with
          | token token => exact ⟨next, present, becomes, untouched⟩
      | exchange before after errand asked request onward depot depot' reply promised =>
          obtain ⟨last, there, ahead⟩ := Depot.promise_becomes distinct promised present
          refine ⟨last, there, becomes.trans ahead, fun done => ?_⟩
          have same := exchanges_perm before after errand asked ⟨request, reply⟩
            (.ask request onward) (onward reply) depot depot'
          have final := Depot.untouched_of_final distinct promised present
            (becomes.final done ▸ done)
          rw [same.countP_eq, ← untouched done, ← becomes.key]
          exact List.countP_cons_of_neg (by simp [final])

/-- However errands with one bound on the attempts run into each other, and whatever calls fail and
leases lapse: what was exchanged accounts for the queue, so that each email is delivered at most
once, and given up when its attempts reach the bound; no lease is settled twice, and none that is
live is refused; and an email that is sent or has failed stays so and is left alone. -/
theorem each_email_is_settled_once (reachable : Reachable made crowd) (positive : 0 < most)
    (bounded : ∀ errand ∈ made, errand.Bounded most) :
    crowd.state.Accounts most crowd.exchanges ∧
      (crowd.exchanges.filterMap settling?).Sublist (crowd.exchanges.flatMap granted) ∧
      (crowd.exchanges.filterMap settling?).Nodup ∧
      (∀ lease ∈ crowd.exchanges.filterMap refused?, lease.2 ∈ crowd.state.lapsed) ∧
      ∀ later, ReflTransGen (Step Depot.promise Depot.Lapse) crowd later →
        ∀ row ∈ crowd.state.queue.rows, ∃ after ∈ later.state.queue.rows, row.Becomes after ∧
          (row.status ≠ .pending →
            later.exchanges.countP (touches row.key) = crowd.exchanges.countP (touches row.key)) :=
  ⟨reachable.accounts positive bounded, reachable.settling_sublist,
    reachable.settling_nodup positive bounded, reachable.lapsed_of_refused positive bounded,
    fun _ onward _ member => reachable.becomes positive bounded onward member⟩

/-- A letter is queued, and claimed by a first flush. -/
def claimedOnce : Crowd errands post Depot :=
  (start runErrand [.enqueue "diver@reef.org" "Tide" "", .flush ⟨1, 2, 60⟩, .flush ⟨1, 2, 60⟩]
    .empty).turns Depot.oblige [0, 1]

/-- The lease of the first flush has lapsed. -/
def lapsedOnce : Crowd errands post Depot :=
  ⟨claimedOnce.strands, { claimedOnce.state with lapsed := [⟨.ofNat 0⟩] }⟩

/-- A second flush has claimed the letter anew and delivered it, and then the first one comes. -/
def claimedTwice : Crowd errands post Depot := lapsedOnce.turns Depot.oblige [2, 2, 2, 1, 1]

theorem claimedTwice_is_settled_once :
    claimedTwice.exchanges.filterMap refused? = [(⟨.ofNat 0⟩, ⟨.ofNat 0⟩)] ∧
      claimedTwice.state.Accounts 2 claimedTwice.exchanges := by
  have first : Reachable _ claimedOnce := turns_steps Depot.promise_oblige _ _
  have lapse : Step Depot.promise Depot.Lapse claimedOnce lapsedOnce :=
    .drift _ _ _ (.token claimedOnce.state ⟨.ofNat 0⟩)
  have second : Reachable _ claimedTwice :=
    (first.tail lapse).trans (turns_steps Depot.promise_oblige lapsedOnce _)
  have settled := each_email_is_settled_once second Nat.two_pos (by simp [Errand.Bounded])
  exact ⟨by decide +kernel, settled.1⟩

end ClubOffice.Email
