/-!
# Stable sorting

Insertion sort by a comparison `le`. Elements that compare equal both ways keep the order in
which they came. The recursion is on the list, so a sort of a given list can be evaluated in a
proof.
-/

namespace ClubOffice

variable {α : Type}

/-- Puts an element in front of the first one that it does not exceed. -/
def insertSorted (le : α → α → Bool) (a : α) : List α → List α
  | [] => [a]
  | b :: rest => if le a b then a :: b :: rest else b :: insertSorted le a rest

/-- The list in ascending order by `le`, equals in their given order. -/
def sorted (le : α → α → Bool) : List α → List α
  | [] => []
  | a :: rest => insertSorted le a (sorted le rest)

theorem insertSorted_perm (le : α → α → Bool) (a : α) (list : List α) :
    (insertSorted le a list).Perm (a :: list) := by
  induction list with
  | nil => exact .refl _
  | cons b rest ih =>
      unfold insertSorted
      split
      · exact .refl _
      · exact (ih.cons b).trans (.swap a b rest)

theorem sorted_perm (le : α → α → Bool) (list : List α) : (sorted le list).Perm list := by
  induction list with
  | nil => exact .refl _
  | cons a rest ih => exact (insertSorted_perm le a _).trans (ih.cons a)

section Pairwise

variable {R : α → α → Prop} {le : α → α → Bool}

theorem pairwise_insertSorted {a : α} {list : List α} (before : ∀ b ∈ list, le a b = true → R a b)
    (after : ∀ b ∈ list, le a b = false → R b a)
    (trans : ∀ b ∈ list, ∀ c ∈ list, le a b = true → R b c → R a c) (ordered : list.Pairwise R) :
    (insertSorted le a list).Pairwise R := by
  induction list with
  | nil => exact List.pairwise_singleton _ a
  | cons b rest ih =>
      obtain ⟨first, later⟩ := List.pairwise_cons.1 ordered
      have inside : ∀ c ∈ rest, c ∈ b :: rest := fun c => List.mem_cons_of_mem b
      unfold insertSorted
      split
      · rename_i here
        refine List.pairwise_cons.2 ⟨fun c member => ?_, ordered⟩
        rcases List.mem_cons.1 member with rfl | member
        · exact before c List.mem_cons_self here
        · exact trans b List.mem_cons_self c (inside c member) here (first c member)
      · rename_i there
        have onward := ih (fun c member => before c (inside c member))
          (fun c member => after c (inside c member))
          (fun c member d member' => trans c (inside c member) d (inside d member')) later
        refine List.pairwise_cons.2 ⟨fun c member => ?_, onward⟩
        rcases List.mem_cons.1 ((insertSorted_perm le a rest).mem_iff.1 member) with rfl | member
        · exact after b List.mem_cons_self (Bool.eq_false_iff.2 there)
        · exact first c member

/-- A sorted list is in any order that the comparison decides, whichever way it comes out. -/
theorem pairwise_sorted (before : ∀ a b, le a b = true → R a b)
    (after : ∀ a b, le a b = false → R b a) (trans : ∀ a b c, R a b → R b c → R a c)
    (list : List α) : (sorted le list).Pairwise R := by
  induction list with
  | nil => exact List.Pairwise.nil
  | cons a rest ih =>
      exact pairwise_insertSorted (fun b _ => before a b) (fun b _ => after a b)
        (fun b _ c _ here => trans a b c (before a b here)) ih

/-- A list stays in the order in which it was given as far as the comparison leaves it open. -/
theorem pairwise_sorted_of_pairwise (total : ∀ a b, le a b = false → le b a = true)
    (trans : ∀ a b c, le a b = true → le b c = true → le a c = true) {list : List α}
    (given : list.Pairwise R) :
    (sorted le list).Pairwise fun a b => le a b = true ∧ (le b a = true → R a b) := by
  induction list with
  | nil => exact List.Pairwise.nil
  | cons a rest ih =>
      obtain ⟨first, later⟩ := List.pairwise_cons.1 given
      have ahead : ∀ b ∈ sorted le rest, R a b :=
        fun b member => first b ((sorted_perm le rest).mem_iff.1 member)
      refine pairwise_insertSorted ?before ?after ?trans (ih later)
      case before => exact fun b member here => ⟨here, fun _ => ahead b member⟩
      case after =>
        intro b _ there
        refine ⟨total a b there, fun here => ?_⟩
        rw [there] at here
        cases here
      case trans =>
        exact fun b _ c member here both => ⟨trans a b c here both.1, fun _ => ahead c member⟩

end Pairwise

/-- Of elements with their places in a list, those in front have the smaller places. -/
theorem pairwise_place_zipIdx (list : List α) : list.zipIdx.Pairwise fun a b => a.2 < b.2 := by
  rw [← List.pairwise_map, List.zipIdx_map_snd]
  exact List.pairwise_lt_range'

theorem insertSorted_eq_cons {le : α → α → Bool} {a : α} {list : List α}
    (first : ∀ b ∈ list, le a b = true) : insertSorted le a list = a :: list := by
  cases list with
  | nil => rfl
  | cons b rest => exact if_pos (first b List.mem_cons_self)

/-- A list that is in order stays as it is. -/
theorem sorted_eq_self {le : α → α → Bool} {list : List α}
    (ordered : list.Pairwise fun a b => le a b = true) : sorted le list = list := by
  induction list with
  | nil => rfl
  | cons a rest ih =>
      obtain ⟨first, later⟩ := List.pairwise_cons.1 ordered
      rw [sorted, ih later, insertSorted_eq_cons first]

theorem mem_sorted (le : α → α → Bool) (list : List α) (a : α) :
    a ∈ sorted le list ↔ a ∈ list :=
  (sorted_perm le list).mem_iff

theorem length_sorted (le : α → α → Bool) (list : List α) :
    (sorted le list).length = list.length :=
  (sorted_perm le list).length_eq

section Filtering

variable {le : α → α → Bool} (kept : α → Bool)

theorem filter_insertSorted_of_left_out {a : α} (leftOut : kept a = false) (list : List α) :
    (insertSorted le a list).filter kept = list.filter kept := by
  induction list with
  | nil => simp [insertSorted, leftOut]
  | cons b rest ih =>
      unfold insertSorted
      split
      · simp [leftOut]
      · rw [List.filter_cons, List.filter_cons, ih]

theorem filter_insertSorted_of_kept
    (trans : ∀ a b c, le a b = true → le b c = true → le a c = true) {a : α} (stays : kept a = true)
    {list : List α} (ordered : list.Pairwise fun b c => le b c = true) :
    (insertSorted le a list).filter kept = insertSorted le a (list.filter kept) := by
  induction list with
  | nil => simp [insertSorted, stays]
  | cons b rest ih =>
      obtain ⟨first, later⟩ := List.pairwise_cons.1 ordered
      by_cases before : le a b = true
      · have least : ∀ c ∈ (b :: rest).filter kept, le a c = true := by
          intro c member
          rcases List.mem_cons.1 (List.mem_filter.1 member).1 with rfl | member
          · exact before
          · exact trans a b c before (first c member)
        rw [insertSorted, if_pos before, List.filter_cons_of_pos stays, insertSorted_eq_cons least]
      · by_cases here : kept b = true
        · rw [insertSorted, if_neg before, List.filter_cons_of_pos here,
            List.filter_cons_of_pos here, ih later, insertSorted, if_neg before]
        · rw [insertSorted, if_neg before, List.filter_cons_of_neg here,
            List.filter_cons_of_neg here, ih later]

/-- Elements can be left out before a list is sorted, or after it. -/
theorem filter_sorted (total : ∀ a b, le a b = false → le b a = true)
    (trans : ∀ a b c, le a b = true → le b c = true → le a c = true) (list : List α) :
    (sorted le list).filter kept = sorted le (list.filter kept) := by
  induction list with
  | nil => rfl
  | cons a rest ih =>
      have ordered := pairwise_sorted (fun _ _ => id) total trans rest
      by_cases stays : kept a = true
      · rw [sorted, filter_insertSorted_of_kept kept trans stays ordered, ih,
          List.filter_cons_of_pos stays, sorted]
      · rw [sorted, filter_insertSorted_of_left_out kept (Bool.eq_false_iff.2 stays), ih,
          List.filter_cons_of_neg stays]

end Filtering

theorem insertSorted_map {β : Type} (f : β → α) (le : α → α → Bool) (b : β) (list : List β) :
    insertSorted le (f b) (list.map f) =
      (insertSorted (fun b c => le (f b) (f c)) b list).map f := by
  induction list with
  | nil => rfl
  | cons c rest ih =>
      simp only [List.map_cons, insertSorted]
      split
      · rfl
      · rw [ih, List.map_cons]

theorem sorted_map {β : Type} (f : β → α) (le : α → α → Bool) (list : List β) :
    sorted le (list.map f) = (sorted (fun b c => le (f b) (f c)) list).map f := by
  induction list with
  | nil => rfl
  | cons b rest ih => rw [List.map_cons, sorted, sorted, ih, insertSorted_map]

/-- Elements are sorted in the same way with their places as without. -/
theorem map_sorted_zipIdx (le : α → α → Bool) (list : List α) :
    (sorted (fun a b => le a.1 b.1) list.zipIdx).map (·.1) = sorted le list := by
  rw [← sorted_map, List.zipIdx_map_fst]

end ClubOffice
