import ClubOffice.Proofs.Text.Trimming
import ClubOffice.Text.Numeral
import Mathlib.Algebra.Order.Ring.Nat

/-!
# Spellings of numbers

A number in decimal can have zeros in front of it, a plus sign in front of these, and white space
around the whole. However it is spelled it is read as the same number, or found to be too large.
-/

namespace ClubOffice.Text

variable {bound n soFar : Nat} {text : List Char}

/-- The number in decimal, with zeros and perhaps a plus sign in front. -/
def numeral (plus : Bool) (zeros n : Nat) : List Char :=
  (if plus then ['+'] else []) ++ (List.replicate zeros '0' ++ decimal n)

/-- Whether a text is a numeral of the number with white space around it. -/
inductive Spells (n : Nat) : List Char → Prop
  | intro {before after : List Char} (plus : Bool) (zeros : Nat)
      (blankBefore : isBlank before = true) (blankAfter : isBlank after = true) :
      Spells n (before ++ numeral plus zeros n ++ after)

theorem spells_decimal (n : Nat) : Spells n (decimal n) := by
  have plain := @Spells.intro n [] [] false 0 rfl rfl
  rw [List.append_nil] at plain
  exact plain

theorem le_ofDigitChars (text : List Char) (soFar : Nat) :
    soFar ≤ Nat.ofDigitChars 10 text soFar := by
  have shifted : soFar ≤ 10 ^ text.length * soFar :=
    Nat.le_mul_of_pos_left soFar (Nat.pow_pos (by decide))
  rw [Nat.ofDigitChars_eq_ofDigitChars_zero]
  omega

/-- Digits are read as the number that they make, unless that is too large. -/
theorem readDigits_of_isDigit (digits : ∀ c ∈ text, c.isDigit = true) (small : soFar < bound) :
    readDigits bound text soFar = checkBelow bound (Nat.ofDigitChars 10 text soFar) := by
  induction text generalizing soFar with
  | nil => simp [readDigits, checkBelow, small]
  | cons c rest ih =>
      obtain ⟨digit, digits⟩ := List.forall_mem_cons.1 digits
      rw [Nat.ofDigitChars_cons]
      simp only [readDigits, digit, if_true]
      split
      · rename_i fits
        exact ih digits fits
      · rename_i large
        -- What has been read already only grows with the digits to come.
        have grown := le_ofDigitChars rest (10 * soFar + (c.toNat - '0'.toNat))
        have tooLarge : ¬ Nat.ofDigitChars 10 rest (10 * soFar + (c.toNat - '0'.toNat)) < bound :=
          fun fits => large (Nat.lt_of_le_of_lt grown fits)
        exact (if_neg tooLarge).symm

theorem lt_of_readDigits (small : soFar < bound) (done : readDigits bound text soFar = .ok n) :
    n < bound := by
  induction text generalizing soFar with
  | nil =>
      cases done
      exact small
  | cons c rest ih =>
      simp only [readDigits] at done
      split at done
      · split at done
        · rename_i fits
          exact ih fits done
        · cases done
      · cases done

theorem lt_of_readNumeral (positive : 0 < bound) (done : readNumeral bound text = .ok n) :
    n < bound := by
  unfold readNumeral at done
  split at done
  · cases done
  · cases done
  · exact lt_of_readDigits positive done
  · exact lt_of_readDigits positive done

theorem isDigit_of_mem_decimal {c : Char} (member : c ∈ decimal n) : c.isDigit = true :=
  Nat.isDigit_of_mem_toDigits (by decide) (by decide) member

theorem isDigit_of_mem_zeros {zeros : Nat} {c : Char}
    (member : c ∈ List.replicate zeros '0' ++ decimal n) : c.isDigit = true := by
  rcases List.mem_append.1 member with zero | digit
  · cases List.eq_of_mem_replicate zero
    rfl
  · exact isDigit_of_mem_decimal digit

theorem ofDigitChars_zeros (zeros n : Nat) :
    Nat.ofDigitChars 10 (List.replicate zeros '0' ++ decimal n) 0 = n := by
  rw [Nat.ofDigitChars_append, Nat.ofDigitChars_replicate_zero, Nat.mul_zero]
  exact Nat.ofDigitChars_ten_toDigits

/-- A numeral is read as its number, unless that is too large. -/
theorem readNumeral_numeral (positive : 0 < bound) (plus : Bool) (zeros n : Nat) :
    readNumeral bound (numeral plus zeros n) = checkBelow bound n := by
  have value := ofDigitChars_zeros zeros n
  have some : List.replicate zeros '0' ++ decimal n ≠ [] :=
    List.append_ne_nil_of_right_ne_nil _ Nat.toDigits_ne_nil
  have digits : ∀ c ∈ List.replicate zeros '0' ++ decimal n, c.isDigit = true :=
    fun c => isDigit_of_mem_zeros
  unfold numeral
  generalize List.replicate zeros '0' ++ decimal n = text at value some digits
  have read : readDigits bound text 0 = checkBelow bound n := by
    rw [readDigits_of_isDigit digits positive, value]
  obtain ⟨c, rest, rfl⟩ := List.exists_cons_of_ne_nil some
  cases plus with
  | true => exact read
  | false =>
      have unsigned : c ≠ '+' := by
        rintro rfl
        cases digits '+' List.mem_cons_self
      simpa [readNumeral, unsigned] using read

theorem isSpace_of_isDigit {c : Char} (digit : c.isDigit = true) : isSpace c = false := by
  refine Bool.eq_false_iff.2 fun space => ?_
  obtain ⟨interval, among, first, last⟩ := (whiteSpace.covers_iff c).1 space
  have bounds : 48 ≤ c.toNat ∧ c.toNat ≤ 57 := by
    simpa [Char.isDigit, UInt32.le_iff_toNat_le, ← Char.toNat_val] using digit
  simp only [whiteSpace, List.mem_cons, List.not_mem_nil, or_false] at among
  rcases among with rfl | rfl | rfl | rfl | rfl | rfl | rfl | rfl | rfl | rfl <;> omega

theorem trim_numeral (plus : Bool) (zeros n : Nat) :
    trim (numeral plus zeros n) = numeral plus zeros n := by
  refine trim_eq_self fun c member => ?_
  rcases List.mem_append.1 member with sign | digit
  · cases plus with
    | true =>
        cases List.mem_singleton.1 sign
        decide
    | false => cases sign
  · exact isSpace_of_isDigit (isDigit_of_mem_zeros digit)

/-- However a number is spelled, it is read as the same number or found to be too large. -/
theorem readNumeral_of_spells (positive : 0 < bound) (spells : Spells n text) :
    readNumeral bound (trim text) = checkBelow bound n := by
  obtain ⟨plus, zeros, blankBefore, blankAfter⟩ := spells
  rw [trim_surround blankBefore blankAfter, trim_numeral]
  exact readNumeral_numeral positive plus zeros n

theorem isBlank_decimal (n : Nat) : isBlank (decimal n) = false := by
  obtain ⟨c, rest, same⟩ := List.exists_cons_of_ne_nil (Nat.toDigits_ne_nil (n := n) (b := 10))
  have digit : c.isDigit = true := isDigit_of_mem_decimal (same ▸ List.mem_cons_self)
  have first : isSpace c = false := isSpace_of_isDigit digit
  have shape : decimal n = c :: rest := same
  rw [shape, isBlank, List.all_cons, first]
  rfl

section Runs

variable {rest : List Char} {width : Nat}

/-- Whether a run of digits does not go on in a text. -/
def Breaks (rest : List Char) : Prop := ∀ c ∈ rest.head?, c.isDigit = false

theorem breaks_nil : Breaks [] := by
  rintro _ ⟨⟩

theorem breaks_cons {c : Char} (other : c.isDigit = false) : Breaks (c :: rest) := by
  rintro _ ⟨⟩
  exact other

theorem Breaks.take (breaks : Breaks rest) (count : Nat) : Breaks (rest.take count) := by
  cases count with
  | zero => exact breaks_nil
  | succ count =>
      cases rest with
      | nil => exact breaks_nil
      | cons c rest => exact breaks_cons (breaks c rfl)

theorem takeWhile_digits (digits : ∀ c ∈ text, c.isDigit = true) (breaks : Breaks rest) :
    (text ++ rest).takeWhile Char.isDigit = text := by
  rw [List.takeWhile_append_of_pos digits]
  cases rest with
  | nil => simp
  | cons c rest => rw [List.takeWhile_cons_of_neg (by simp [breaks c rfl]), List.append_nil]

theorem isDigit_of_mem_padded {c : Char} (member : c ∈ padded width n) : c.isDigit = true :=
  isDigit_of_mem_zeros member

theorem ofDigitChars_padded (width n : Nat) : Nat.ofDigitChars 10 (padded width n) 0 = n :=
  ofDigitChars_zeros _ n

theorem padded_ne_nil (width n : Nat) : padded width n ≠ [] :=
  List.append_ne_nil_of_right_ne_nil _ Nat.toDigits_ne_nil

theorem length_padded (positive : 0 < width) (fits : n < 10 ^ width) :
    (padded width n).length = width := by
  have short : (decimal n).length ≤ width :=
    (Nat.length_toDigits_le_iff (by decide) positive).2 fits
  rw [padded, List.length_append, List.length_replicate]
  omega

theorem startsSolid_padded (width n : Nat) (rest : List Char) :
    StartsSolid (padded width n ++ rest) := by
  have digits : ∀ c ∈ padded width n, c.isDigit = true := fun _ => isDigit_of_mem_padded
  obtain ⟨c, others, same⟩ := List.exists_cons_of_ne_nil (padded_ne_nil width n)
  rw [same] at digits ⊢
  rintro _ ⟨⟩
  exact isSpace_of_isDigit (digits c List.mem_cons_self)

end Runs

end ClubOffice.Text
