import ClubOffice.Text.WhiteSpace
import Mathlib.Data.List.TakeWhile

/-!
# Trimming

White space around a text makes no difference to what trimming leaves of it, and a text without
white space is left as it is.
-/

namespace ClubOffice.Text

variable {before text after : List Char}

theorem trimStart_eq_nil (blank : isBlank text = true) : trimStart text = [] :=
  List.dropWhile_eq_nil_iff.2 ((isBlank_iff text).1 blank)

theorem trimStart_ne_nil (said : isBlank text = false) : trimStart text ≠ [] := by
  intro nothing
  have blank : isBlank text = true :=
    (isBlank_iff text).2 (List.dropWhile_eq_nil_iff.1 nothing)
  rw [said] at blank
  cases blank

theorem trimStart_append_left (blank : isBlank before = true) :
    trimStart (before ++ text) = trimStart text :=
  List.dropWhile_append_of_pos ((isBlank_iff before).1 blank)

theorem trimStart_append_right (said : isBlank text = false) :
    trimStart (text ++ after) = trimStart text ++ after := by
  have some : (text.dropWhile isSpace).isEmpty = false :=
    Bool.eq_false_iff.2 fun empty => trimStart_ne_nil said (List.isEmpty_iff.1 empty)
  unfold trimStart
  rw [List.dropWhile_append, some]
  rfl

theorem isBlank_reverse : isBlank text.reverse = isBlank text := List.all_reverse

theorem trimEnd_append_right (blank : isBlank after = true) :
    trimEnd (text ++ after) = trimEnd text := by
  have reversed : isBlank after.reverse = true := by rwa [isBlank_reverse]
  unfold trimEnd
  rw [List.reverse_append]
  exact congrArg List.reverse (trimStart_append_left reversed)

/-- White space around a text makes no difference to what is left of it. -/
theorem trim_surround (blankBefore : isBlank before = true) (blankAfter : isBlank after = true) :
    trim (before ++ text ++ after) = trim text := by
  unfold trim
  rw [List.append_assoc, trimStart_append_left blankBefore]
  cases said : isBlank text with
  | true => rw [trimStart_append_left said, trimStart_eq_nil said, trimStart_eq_nil blankAfter]
  | false => rw [trimStart_append_right said, trimEnd_append_right blankAfter]

/-- Whether a text does not begin with white space. -/
def StartsSolid (text : List Char) : Prop := ∀ c ∈ text.head?, isSpace c = false

theorem trimStart_of_solid (solid : StartsSolid text) : trimStart text = text := by
  cases text with
  | nil => rfl
  | cons c rest => exact List.dropWhile_cons_of_neg (Bool.eq_false_iff.1 (solid c rfl))

theorem startsSolid_trimStart (text : List Char) : StartsSolid (trimStart text) := by
  intro c head
  have solid := List.head?_dropWhile_not isSpace text
  rw [trimStart] at head
  rw [Option.mem_def.1 head] at solid
  exact solid

/-- A text that neither begins nor ends with white space is left as it is. -/
theorem trim_of_solid (first : StartsSolid text) (last : StartsSolid text.reverse) :
    trim text = text := by
  unfold trim trimEnd
  rw [trimStart_of_solid first]
  exact (congrArg List.reverse (trimStart_of_solid last)).trans text.reverse_reverse

theorem trim_eq_self (solid : ∀ c ∈ text, isSpace c = false) : trim text = text :=
  trim_of_solid (fun c head => solid c (List.mem_of_mem_head? head))
    fun c head => solid c (List.mem_reverse.1 (List.mem_of_mem_head? head))

theorem startsSolid_reverse_trim (text : List Char) : StartsSolid (trim text).reverse := by
  rw [trim, trimEnd, List.reverse_reverse]
  exact startsSolid_trimStart _

theorem startsSolid_trim (text : List Char) : StartsSolid (trim text) := by
  have beginning : trim text <+: trimStart text := by
    rw [trim, trimEnd, ← List.reverse_suffix, List.reverse_reverse]
    exact List.dropWhile_suffix _
  intro c head
  refine startsSolid_trimStart text c ?_
  obtain ⟨rest, whole⟩ := beginning
  rw [← whole, Option.mem_def, List.head?_append, Option.mem_def.1 head]
  rfl

end ClubOffice.Text
