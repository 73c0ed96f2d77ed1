import Mathlib.Data.List.Nodup

/-!
# Lists with keys

In a list of things with different keys each thing is found by its key, and changing the thing of
one key leaves the others as they are.
-/

namespace ClubOffice.Keyed

variable {α κ : Type} {key : α → κ} {list : List α} {a : α}

theorem eq_of_key (distinct : (list.map key).Nodup) {b : α} (member : a ∈ list) (other : b ∈ list)
    (same : key a = key b) : a = b :=
  List.inj_on_of_nodup_map distinct member other same

theorem split (distinct : (list.map key).Nodup) (member : a ∈ list) :
    ∃ before after, list = before ++ a :: after ∧ ∀ b ∈ before ++ after, key b ≠ key a := by
  obtain ⟨before, after, split⟩ := List.append_of_mem member
  refine ⟨before, after, split, ?_⟩
  rw [split, List.map_append, List.map_cons, List.nodup_middle, List.nodup_cons] at distinct
  intro b present same
  apply distinct.1
  rw [← List.map_append, ← same]
  exact List.mem_map_of_mem present

variable [DecidableEq κ]

theorem exists_change (distinct : (list.map key).Nodup) (member : a ∈ list) :
    ∃ before after, list = before ++ a :: after ∧
      ∀ change : α → α, (list.map fun b => if key b = key a then change b else b) =
        before ++ change a :: after := by
  obtain ⟨before, after, rfl, others⟩ := split distinct member
  refine ⟨before, after, rfl, fun change => ?_⟩
  have kept (part : List α) (within : ∀ b ∈ part, key b ≠ key a) :
      (part.map fun b => if key b = key a then change b else b) = part :=
    (List.map_congr_left fun b present => if_neg (within b present)).trans (List.map_id' part)
  rw [List.map_append, List.map_cons, if_pos rfl,
    kept before fun b present => others b (List.mem_append_left _ present),
    kept after fun b present => others b (List.mem_append_right _ present)]

theorem find?_eq_some_iff (distinct : (list.map key).Nodup) (sought : κ) :
    list.find? (fun b => key b = sought) = some a ↔ a ∈ list ∧ key a = sought := by
  constructor
  · intro found
    exact ⟨List.mem_of_find?_eq_some found, by simpa using List.find?_some found⟩
  · rintro ⟨member, rfl⟩
    obtain ⟨before, after, split, others⟩ := split distinct member
    have absent : ∀ b ∈ before, ¬ decide (key b = key a) = true := by
      intro b present
      simpa using others b (by simp [present])
    rw [split, List.find?_append, List.find?_eq_none.2 absent]
    simp

theorem perm_cons_filter (distinct : (list.map key).Nodup) (member : a ∈ list) :
    list.Perm (a :: list.filter (key · ≠ key a)) := by
  obtain ⟨before, after, rfl, others⟩ := split distinct member
  have kept (part : List α) (within : ∀ b ∈ part, key b ≠ key a) :
      part.filter (key · ≠ key a) = part :=
    List.filter_eq_self.2 fun b present => decide_eq_true (within b present)
  rw [List.filter_append, List.filter_cons_of_neg (by simp),
    kept before fun b present => others b (List.mem_append_left _ present),
    kept after fun b present => others b (List.mem_append_right _ present)]
  exact List.perm_middle

theorem map_change (sought : κ) {change : α → α} (keeps : ∀ a, key (change a) = key a)
    (list : List α) :
    (list.map fun b => if key b = sought then change b else b).map key = list.map key := by
  rw [List.map_map]
  refine List.map_congr_left fun b _ => ?_
  simp only [Function.comp_apply]
  split
  · exact keeps b
  · rfl

/-- After a change of what has the key of a member, there is the changed member and the others. -/
theorem mem_change_iff (distinct : (list.map key).Nodup) (member : a ∈ list) (change : α → α)
    (b : α) :
    b ∈ (list.map fun c => if key c = key a then change c else c) ↔
      b = change a ∨ (b ∈ list ∧ key b ≠ key a) := by
  rw [List.mem_map]
  constructor
  · rintro ⟨c, present, rfl⟩
    by_cases same : key c = key a
    · rw [if_pos same, eq_of_key distinct present member same]
      exact .inl rfl
    · rw [if_neg same]
      exact .inr ⟨present, same⟩
  · rintro (rfl | ⟨present, other⟩)
    · exact ⟨a, member, if_pos rfl⟩
    · exact ⟨b, present, if_neg other⟩

end ClubOffice.Keyed
