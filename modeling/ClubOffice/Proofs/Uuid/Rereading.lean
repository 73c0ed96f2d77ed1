import ClubOffice.Key
import Mathlib.Algebra.Order.Ring.Nat

/-!
# Identifiers are read as they are written

The written form is told from the others by its length alone, and its groups are cut where they were
joined.
-/

namespace ClubOffice

open Text

namespace Uuid

theorem mapM_digitOfChar? (digits : List (Fin 16)) :
    (digits.map digitChar).mapM digitOfChar? = some digits := by
  have same : digitOfChar? ∘ digitChar = fun digit => (pure digit : Option (Fin 16)) :=
    funext digitOfChar?_digitChar
  rw [List.mapM_map, same, List.mapM_pure, List.map_id']
  rfl

theorem readGroups_hyphenate {lengths : List Nat} (some : lengths ≠ []) :
    ∀ digits : List (Fin 16), digits.length = lengths.sum →
      readGroups lengths (hyphenate lengths (digits.map digitChar)) = .some digits := by
  induction lengths with
  | nil => exact absurd rfl some
  | cons length rest ih =>
      intro digits fills
      rw [List.sum_cons] at fills
      cases rest with
      | nil =>
          have whole : (digits.map digitChar).length = length := by
            rw [List.length_map, fills, List.sum_nil, Nat.add_zero]
          rw [hyphenate, List.take_of_length_le (Nat.le_of_eq whole), readGroups, if_pos whole,
            mapM_digitOfChar?]
      | cons next rest =>
          have here : ((digits.take length).map digitChar).length = length := by
            rw [List.length_map, List.length_take]
            omega
          have there := ih (List.cons_ne_nil _ _) (digits.drop length)
            (by rw [List.length_drop]; omega)
          rw [hyphenate, ← List.map_take, ← List.map_drop, readGroups, List.drop_left' here,
            List.take_left' here, mapM_digitOfChar?]
          simp only [there, Option.bind_eq_bind, Option.bind_some, List.take_append_drop]
          all_goals exact List.cons_ne_nil _ _

theorem byteLength_digits (digits : List (Fin 16)) :
    byteLength (digits.map digitChar) = digits.length := by
  have one (digit : Fin 16) : (digitChar digit).utf8Size = 1 := by
    revert digit
    decide
  induction digits with
  | nil => rfl
  | cons digit digits ih =>
      rw [List.map_cons, byteLength_cons, one, ih, List.length_cons, Nat.add_comm]

theorem byteLength_chars (uuid : Uuid) : byteLength uuid.chars = 36 := by
  have hyphen : '-'.utf8Size = 1 := by decide
  simp only [chars, groups, hyphenate, ← List.map_take, ← List.map_drop, byteLength_append,
    byteLength_cons, byteLength_digits, List.length_take, List.length_drop, uuid.length_digits,
    hyphen]
  rfl

theorem read_chars (uuid : Uuid) : read uuid.chars = .ok uuid := by
  have form : hyphenated? uuid.chars = some uuid.chars := by
    rw [hyphenated?, byteLength_chars]
    rfl
  have digits : readGroups groups uuid.chars = some uuid.digits :=
    readGroups_hyphenate (by decide) uuid.digits uuid.length_digits
  rw [read, form]
  simp only [readHyphenated, digits, Option.bind_some, ofDigits?, dif_pos uuid.length_digits]

end Uuid

theorem Key.read_text {subject : Subject} (key : Key subject) :
    Key.read key.uuid.text = .ok key := by
  rw [Key.read, Uuid.text, String.toList_ofList, Uuid.read_chars]
  rfl

end ClubOffice
