import ClubOffice.Proofs.Audit.ReadOrders
import Mathlib.Data.List.DropRight

/-!
# What a purge takes away

A purge takes the entries before a cutoff out of a trail, wherever in it they were written. In every
view of the trail these are the old end: a beginning of each listing is left, and an end of what is
read of each trace, because both are in order of time. Purges one after the other come to the same
as one purge at the latest cutoff.
-/

namespace ClubOffice

/-- What is kept of a list is a beginning of it, if nothing that is left out comes before anything
that is kept. -/
theorem filter_eq_takeWhile {α : Type} {kept : α → Bool} {list : List α}
    (ordered : list.Pairwise fun a b => kept b = true → kept a = true) :
    list.filter kept = list.takeWhile kept := by
  induction list with
  | nil => rfl
  | cons a rest ih =>
      obtain ⟨first, later⟩ := List.pairwise_cons.1 ordered
      by_cases stays : kept a = true
      · rw [List.filter_cons_of_pos stays, List.takeWhile_cons_of_pos stays, ih later]
      · have nothing : rest.filter kept = [] :=
          List.filter_eq_nil_iff.2 fun b member kept => stays (first b member kept)
        rw [List.filter_cons_of_neg stays, List.takeWhile_cons_of_neg stays, nothing]

/-- What comes after a place is kept whole in a beginning that is kept, if all of it is kept. -/
theorem drop_takeWhile {α : Type} {kept : α → Bool} {list : List α} {start : Nat}
    (ordered : list.Pairwise fun a b => kept b = true → kept a = true)
    (stays : ∀ a ∈ list.drop start, kept a = true) :
    (list.takeWhile kept).drop start = list.drop start := by
  by_cases short : list.length ≤ start
  · have shorter : (list.takeWhile kept).length ≤ start :=
      Nat.le_trans (List.takeWhile_prefix kept).length_le short
    rw [List.drop_eq_nil_of_le short, List.drop_eq_nil_of_le shorter]
  · -- Something does come after the place, and as that is kept, so is all that comes before it.
    obtain ⟨b, member⟩ := List.exists_mem_of_ne_nil (list.drop start)
      fun none => short (List.drop_eq_nil_iff.1 none)
    rw [← List.take_append_drop start list] at ordered
    have before : ∀ a ∈ list.take start, kept a = true := fun a ahead =>
      (List.pairwise_append.1 ordered).2.2 a ahead b member (stays b member)
    have all : ∀ a ∈ list, kept a = true := by
      intro a among
      rw [← List.take_append_drop start list] at among
      exact (List.mem_append.1 among).elim (before a) (stays a)
    rw [List.takeWhile_eq_self_iff.2 all]

namespace Time.Instant

/-- The later of two instants. -/
instance : Max Instant := maxOfLe

theorem max_le_iff {a b c : Instant} : max a b ≤ c ↔ a ≤ c ∧ b ≤ c := by
  change (if a ≤ b then b else a) ≤ c ↔ _
  split
  · rename_i later
    exact ⟨fun below => ⟨Int.le_trans later below, below⟩, And.right⟩
  · rename_i earlier
    exact ⟨fun below => ⟨below, Int.le_trans (Int.le_of_lt (Int.not_le.1 earlier)) below⟩,
      And.left⟩

theorem max_comm (a b : Instant) : max a b = max b a :=
  le_antisymm (max_le_iff.2 (max_le_iff.1 (Int.le_refl _)).symm)
    (max_le_iff.2 (max_le_iff.1 (Int.le_refl _)).symm)

end Time.Instant

namespace Audit

open Time

namespace Trail

variable {trail : Trail} {cutoff other : Instant}

theorem pairwise_newestFirst (trail : Trail) (query : Query) :
    (trail.newestFirst query).Pairwise fun a b => b.time ≤ a.time :=
  pairwise_sorted (fun _ _ => of_decide_eq_true)
    (fun a b there => of_decide_eq_true (Instant.total_by Entry.time b a there))
    (fun _ _ _ first second => Int.le_trans second first) _

/-- In a listing nothing before a cutoff comes before anything that is not. -/
theorem pairwise_kept {listed : List Entry} (ordered : listed.Pairwise fun a b => b.time ≤ a.time)
    (cutoff : Instant) :
    listed.Pairwise fun a b =>
      decide (cutoff ≤ b.time) = true → decide (cutoff ≤ a.time) = true :=
  ordered.imp fun notLater kept =>
    decide_eq_true (Int.le_trans (of_decide_eq_true kept) notLater)

theorem newestFirst_purge (trail : Trail) (cutoff : Instant) (query : Query) :
    (trail.purge cutoff).newestFirst query =
      (trail.newestFirst query).takeWhile (cutoff ≤ ·.time) := by
  rw [← filter_eq_takeWhile (pairwise_kept (trail.pairwise_newestFirst query) cutoff), newestFirst,
    newestFirst, filter_sorted _ (fun a b => Instant.total_by Entry.time b a)
    (fun a b c first second => Instant.trans_by Entry.time c b a second first),
    purge, ← List.filter_reverse, List.filter_comm]

theorem ofTrace_purge (trail : Trail) (cutoff : Instant) (trace : TraceKey) :
    (trail.purge cutoff).ofTrace trace =
      (trail.ofTrace trace).rtakeWhile (cutoff ≤ ·.time) := by
  have ascending : (trail.ofTrace trace).Pairwise fun a b => a.time ≤ b.time :=
    pairwise_sorted (fun _ _ => of_decide_eq_true)
      (fun a b there => of_decide_eq_true (Instant.total_by Entry.time a b there))
      (fun _ _ _ first second => Int.le_trans first second) _
  -- Read backwards, the entries of a trace are in the order of a listing.
  have backwards := pairwise_kept (List.pairwise_reverse.2 ascending) cutoff
  rw [List.rtakeWhile, ← filter_eq_takeWhile backwards, List.filter_reverse, List.reverse_reverse,
    ofTrace, ofTrace, filter_sorted _ (Instant.total_by Entry.time) (Instant.trans_by Entry.time),
    purge, List.filter_comm]

/-- A page on which nothing is too old lies within what a purge leaves of the listing. -/
theorem page_purge {query : Query} (young : ∀ entry ∈ trail.page query, cutoff ≤ entry.time) :
    (trail.purge cutoff).page query = trail.page query := by
  rw [page, List.take_drop] at young
  rw [page, page, newestFirst_purge, List.take_drop, List.take_drop, List.take_takeWhile]
  have ordered := (trail.pairwise_newestFirst query).sublist
    (List.take_sublist (query.offset + Query.pageSize query.limit) _)
  exact drop_takeWhile (pairwise_kept ordered cutoff)
    fun entry member => decide_eq_true (young entry member)

theorem purge_purge (trail : Trail) (cutoff other : Instant) :
    (trail.purge cutoff).purge other = trail.purge (max cutoff other) := by
  simp only [purge, List.filter_filter, Instant.max_le_iff, ← Bool.decide_and, and_comm]

theorem size_purge_le (trail : Trail) (cutoff : Instant) : (trail.purge cutoff).size ≤ trail.size :=
  List.length_filter_le _ _

theorem purged_add_purged (trail : Trail) (cutoff other : Instant) :
    trail.purged cutoff + (trail.purge cutoff).purged other = trail.purged (max cutoff other) := by
  have first := trail.size_purge_le cutoff
  have second := (trail.purge cutoff).size_purge_le other
  rw [purged, purged, purged, ← purge_purge]
  omega

theorem purge_self (trail : Trail) (cutoff : Instant) :
    (trail.purge cutoff).purge cutoff = trail.purge cutoff := by
  simp only [purge, List.filter_filter, Bool.and_self]

/-- A purge leaves the newest part of the listing for every query, and the newest part of what is
read of every trace; a page without anything older is as it was. What two purges leave and count
depends on the later cutoff alone, and the same purge finds nothing more to take away. -/
theorem purge_cuts_the_old_end (trail : Trail) (cutoff : Instant) :
    (∀ query, (trail.purge cutoff).newestFirst query =
        (trail.newestFirst query).takeWhile (cutoff ≤ ·.time)) ∧
      (∀ trace, (trail.purge cutoff).ofTrace trace =
        (trail.ofTrace trace).rtakeWhile (cutoff ≤ ·.time)) ∧
      (∀ query, (∀ entry ∈ trail.page query, cutoff ≤ entry.time) →
        (trail.purge cutoff).page query = trail.page query) ∧
      (∀ other,
        (trail.purge cutoff).purge other = trail.purge (max cutoff other) ∧
        (trail.purge other).purge cutoff = trail.purge (max cutoff other) ∧
        trail.purged cutoff + (trail.purge cutoff).purged other =
          trail.purged (max cutoff other) ∧
        trail.purged other + (trail.purge other).purged cutoff =
          trail.purged (max cutoff other)) ∧
      (trail.purge cutoff).purge cutoff = trail.purge cutoff ∧
      (trail.purge cutoff).purged cutoff = 0 := by
  have again := trail.purge_self cutoff
  refine ⟨trail.newestFirst_purge cutoff, trail.ofTrace_purge cutoff, fun _ => page_purge,
    fun other => ?twice, again, ?nothing⟩
  case twice =>
    rw [purge_purge, purged_add_purged, purge_purge, purged_add_purged, Instant.max_comm other]
    exact ⟨rfl, rfl, rfl, rfl⟩
  case nothing => rw [purged, again, Nat.sub_self]

/-- The first entries of the cruise were written in a leap second, and one of them when a clock was
behind, which a purge finds in the middle of the trail. -/
theorem cruise_is_cut :
    (∀ entry ∈ cruise.page ⟨2, 1, none, none⟩, newYear ≤ entry.time) ∧
      (cruise.purge newYear).page ⟨2, 1, none, none⟩ = [serveDinner, castOff] ∧
      (cruise.purge newYear).newestFirst .standard = [moor, serveDinner, castOff] ∧
      (cruise.purge newYear).ofTrace ⟨.ofNat 9⟩ = [castOff, moor] ∧
      (cruise.purge newYear).purge .epoch = (cruise.purge .epoch).purge newYear ∧
      cruise.purged newYear + (cruise.purge newYear).purged .epoch = 1 := by
  have young : ∀ entry ∈ cruise.page ⟨2, 1, none, none⟩, newYear ≤ entry.time := by decide
  obtain ⟨listings, traces, pages, twice, _⟩ := purge_cuts_the_old_end cruise newYear
  obtain ⟨later, earlier, counts, _⟩ := twice .epoch
  rw [pages _ young, listings, traces, later, earlier, counts]
  exact ⟨young, by decide⟩

end Trail

end Audit

end ClubOffice
