import ClubOffice.Proofs.Audit.Listing

/-!
# The two orders of reading

The entries of a trace are read oldest first, and pages of the trail newest first. The two orders
come from two sorts in opposite directions, each of which keeps the order of what has the same time:
they agree because one sort begins with the order of writing and the other with its reverse.
-/

namespace ClubOffice.Audit

open Time

/-- The first pages of all entries, one after the other. -/
def Trail.leafed (trail : Trail) (limit count : Nat) : List Entry :=
  ((List.range count).map fun number =>
    trail.page ⟨limit, number * Query.pageSize limit, none, none⟩).flatten

/-- Enough pages of any size are the complete listing. -/
theorem Trail.leafed_eq_listed {trail : Trail} {limit count : Nat}
    (enough : trail.size ≤ count * Query.pageSize limit) :
    trail.leafed limit count = trail.listed := by
  have turned := Query.flatten_windows ⟨limit, 0, none, none⟩ trail.listed count
  have all : trail.listed.filter (Query.selects ⟨limit, 0, none, none⟩) = trail.listed :=
    List.filter_eq_self.2 fun _ _ => rfl
  have length : trail.listed.length = trail.size := by
    rw [Trail.listed, length_sorted, List.length_reverse, Trail.size]
  simp only [Query.turnTo, ← Trail.page_eq_window] at turned
  rw [Trail.leafed, turned, all]
  exact List.take_of_length_le (by rwa [length])

/-- The entries of a trace with their places, oldest first. -/
def Trail.placedOf (trail : Trail) (trace : TraceKey) : List (Entry × Nat) :=
  sorted (fun a b => a.1.time ≤ b.1.time) (trail.entries.zipIdx.filter (·.1.trace = trace))

theorem Trail.map_placedOf (trail : Trail) (trace : TraceKey) :
    (trail.placedOf trace).map (·.1) = trail.ofTrace trace := by
  have entries : (trail.entries.zipIdx.filter (·.1.trace = trace)).map (·.1) =
      trail.entries.filter (·.trace = trace) := by
    conv => rhs; rw [← List.zipIdx_map_fst 0 trail.entries, List.filter_map]
    rfl
  rw [placedOf, ofTrace, ← entries]
  exact (sorted_map (fun placed : Entry × Nat => placed.1) (fun a b => a.time ≤ b.time) _).symm

/-- Read backwards, the entries of a trace are a listing, newest first. -/
theorem Trail.lists_reverse_placedOf (trail : Trail) (trace : TraceKey) :
    trail.Lists (·.trace = trace) (trail.placedOf trace).reverse where
  mem entry place := by
    rw [List.mem_reverse, placedOf, mem_sorted, List.mem_filter, List.mem_zipIdx_iff_getElem?,
      decide_eq_true_iff]
  ordered := by
    have given : (trail.entries.zipIdx.filter (·.1.trace = trace)).Pairwise fun a b => a.2 < b.2 :=
      (pairwise_place_zipIdx trail.entries).sublist List.filter_sublist
    have ordered := Instant.pairwise_sorted_by (fun placed : Entry × Nat => placed.1.time) given
    refine List.pairwise_reverse.2 (ordered.imp ?_)
    rintro a b (earlier | ⟨same, before⟩)
    · exact .inl earlier
    · exact .inr ⟨same.symm, before⟩

/-- A listing is the only one, so that of a trace is what the complete one has of the trace. -/
theorem Trail.ofTrace_eq_reverse (trail : Trail) (trace : TraceKey) :
    trail.ofTrace trace = (trail.listed.filter (·.trace = trace)).reverse := by
  have same : (trail.placedOf trace).reverse = trail.placed.filter (·.1.trace = trace) :=
    (trail.lists_placed (·.trace = trace)).unique (trail.lists_reverse_placedOf trace)
  rw [filter_listed, ← same, List.map_reverse, List.reverse_reverse, map_placedOf]

/-- The entries of a trace are, read backwards, what the pages of all entries show of it: of two
entries of the trace, the one that comes first there comes last here. -/
theorem trace_mirrors_pages (trail : Trail) (limit count : Nat)
    (enough : trail.size ≤ count * Query.pageSize limit) (trace : TraceKey) :
    (trail.leafed limit count).Perm trail.entries ∧
      trail.ofTrace trace = ((trail.leafed limit count).filter (·.trace = trace)).reverse ∧
      ∀ first second : Entry, first.trace = trace → second.trace = trace →
        ([first, second].Sublist (trail.ofTrace trace) ↔
          [second, first].Sublist (trail.leafed limit count)) := by
  have mirrored : trail.ofTrace trace =
      ((trail.leafed limit count).filter (·.trace = trace)).reverse := by
    rw [Trail.leafed_eq_listed enough, trail.ofTrace_eq_reverse]
  refine ⟨?complete, mirrored, ?pairs⟩
  case complete =>
    rw [Trail.leafed_eq_listed enough]
    exact (sorted_perm _ _).trans trail.entries.reverse_perm
  case pairs =>
    intro first second ofFirst ofSecond
    have reversed : [first, second].Sublist (trail.ofTrace trace) ↔
        [second, first].Sublist ((trail.leafed limit count).filter (·.trace = trace)) := by
      have swapped : [first, second] = [second, first].reverse := rfl
      rw [mirrored, swapped, List.reverse_sublist]
    rw [reversed]
    constructor
    · exact fun within => within.trans List.filter_sublist
    · intro within
      have kept : [second, first].filter (·.trace = trace) = [second, first] := by
        simp [ofFirst, ofSecond]
      exact kept ▸ within.filter _

/-- The boats are read as rigged first, as the clock had it. The two entries of the leap second are
in the order in which they were written, and the other way round on four pages of one entry. -/
theorem cruise_is_mirrored :
    cruise.size ≤ 4 * Query.pageSize 0 ∧
      cruise.leafed 0 4 = [moor, serveDinner, castOff, rig] ∧
      cruise.ofTrace ⟨.ofNat 9⟩ = [rig, castOff, moor] ∧
      [castOff, moor].Sublist (cruise.ofTrace ⟨.ofNat 9⟩) ∧
      [moor, castOff].Sublist (cruise.leafed 0 4) := by
  have enough : cruise.size ≤ 4 * Query.pageSize 0 := by decide
  have shown : cruise.leafed 0 4 = [moor, serveDinner, castOff, rig] := by decide
  obtain ⟨_, mirrored, pairs⟩ := trace_mirrors_pages cruise 0 4 enough ⟨.ofNat 9⟩
  have read : cruise.ofTrace ⟨.ofNat 9⟩ = [rig, castOff, moor] := by
    rw [mirrored, shown]
    decide
  have inOrder : [castOff, moor].Sublist (cruise.ofTrace ⟨.ofNat 9⟩) := by
    rw [read]
    exact List.sublist_cons_self rig _
  exact ⟨enough, shown, read, inOrder, (pairs castOff moor rfl rfl).1 inOrder⟩

end ClubOffice.Audit
