import ClubOffice.Proofs.Text.Trimming
import ClubOffice.Text.Lower
import Mathlib.Data.List.Forall2

/-!
# Text in lowercase

The lowercase form of a text is made of pieces, one for each character. No piece holds anything that
could be lowered once more, so that a text in lowercase stays as it is, and white space comes from
white space only. Whether an ASCII letter was a capital makes no difference, neither to its own
piece nor to the form of a sigma before or after it.
-/

namespace ClubOffice.Text

namespace CaseRun

/-- What the run maps a code point to. -/
def lowered (run : CaseRun) (code : Nat) : Nat := (code + run.shift).toNat

/-- Whether the run is mapped to characters outside of a closed interval. -/
def misses (run : CaseRun) (interval : Nat × Nat) : Bool :=
  Nat.blt (run.lowered run.last) interval.1 || Nat.blt interval.2 (run.lowered run.first)

/-- Whether no character that the run is mapped to is one of another run: it is outside of its ends,
or both go in steps of two and are out of step. -/
def avoids (run other : CaseRun) : Bool :=
  run.misses (other.first, other.last) ||
    (other.stride == 2 && (run.stride == 2 || run.first == run.last) &&
      (run.lowered run.first - other.first) % 2 == 1)

/-- What must not come out of a run: halves of surrogate pairs, the two capitals whose lowercase
form is not in any run, and white space. -/
def excluded : List (Nat × Nat) :=
  [(0xD800, 0xDFFF), ('İ'.toNat, 'İ'.toNat), ('Σ'.toNat, 'Σ'.toNat)] ++ whiteSpace

/-- Whether what the run is mapped to are characters in lowercase. -/
def lands (run : CaseRun) : Bool :=
  Nat.blt (run.lowered run.last) 0x110000 && excluded.all run.misses && caseRuns.all run.avoids

theorem lands_of_mem {run : CaseRun} (listed : run ∈ caseRuns) : run.lands = true := by
  have all : caseRuns.all lands = true := by decide +kernel
  exact List.all_eq_true.1 all run listed

variable {run other : CaseRun} {code : Nat}

theorem lists_iff : run.lists code = true ↔
    run.first ≤ code ∧ code ≤ run.last ∧ (code - run.first) % run.stride = 0 := by
  simp [lists, and_assoc]

theorem not_within_of_misses {interval : Nat × Nat} (misses : run.misses interval = true)
    (lists : run.lists code = true) :
    ¬ (interval.1 ≤ run.lowered code ∧ run.lowered code ≤ interval.2) := by
  obtain ⟨first, last, _⟩ := lists_iff.1 lists
  simp only [CaseRun.misses, lowered, Bool.or_eq_true, Nat.blt_eq] at misses ⊢
  omega

theorem not_lists_of_avoids (avoids : run.avoids other = true) (lists : run.lists code = true) :
    other.lists (run.lowered code) = false := by
  refine Bool.eq_false_iff.2 fun listed => ?_
  obtain ⟨first, last, step⟩ := lists_iff.1 lists
  obtain ⟨first', last', step'⟩ := lists_iff.1 listed
  simp only [CaseRun.avoids, Bool.or_eq_true, Bool.and_eq_true, beq_iff_eq] at avoids
  rcases avoids with misses | ⟨⟨two', two⟩, odd⟩
  · exact not_within_of_misses misses lists ⟨first', last'⟩
  · -- The way from the first of the other run is even there and odd here.
    rw [two'] at step'
    simp only [lowered] at *
    rcases two with two | single
    · rw [two] at step
      omega
    · omega

theorem lowered_of_mem (listed : run ∈ caseRuns) (lists : run.lists code = true) :
    (run.lowered code).isValidChar ∧
      (∀ interval ∈ excluded,
        ¬ (interval.1 ≤ run.lowered code ∧ run.lowered code ≤ interval.2)) ∧
      ∀ other ∈ caseRuns, other.lists (run.lowered code) = false := by
  have lands := lands_of_mem listed
  simp only [CaseRun.lands, Bool.and_eq_true, List.all_eq_true, Nat.blt_eq] at lands
  obtain ⟨⟨high, misses⟩, avoids⟩ := lands
  have outside := fun interval member => not_within_of_misses (misses interval member) lists
  refine ⟨?_, outside, fun other member => not_lists_of_avoids (avoids other member) lists⟩
  have unpaired := outside (0xD800, 0xDFFF) (by decide)
  obtain ⟨first, last, _⟩ := lists_iff.1 lists
  simp only [lowered, Nat.isValidChar] at *
  omega

end CaseRun

theorem toNat_ofNat {n : Nat} (valid : n.isValidChar) : (Char.ofNat n).toNat = n := by
  rw [Char.ofNat, dif_pos valid]
  rfl

/-- A character that has no other lowercase form than itself, wherever it stands. -/
def IsLow (c : Char) : Prop := c ≠ 'Σ' ∧ lowerChar c = [c]

instance (c : Char) : Decidable (IsLow c) := inferInstanceAs (Decidable (_ ∧ _))

theorem lowerChar_eq_self {c : Char} (plain : c ≠ 'İ')
    (unlisted : ∀ run ∈ caseRuns, run.lists c.toNat = false) : lowerChar c = [c] := by
  have none : caseRuns.find? (·.lists c.toNat) = none :=
    List.find?_eq_none.2 fun run member => Bool.eq_false_iff.1 (unlisted run member)
  rw [lowerChar, if_neg plain, none]

/-- What comes out of a run is in lowercase, and is no white space. -/
theorem isLow_lowered {run : CaseRun} (listed : run ∈ caseRuns) {code : Nat}
    (lists : run.lists code = true) :
    IsLow (Char.ofNat (run.lowered code)) ∧ isSpace (Char.ofNat (run.lowered code)) = false := by
  obtain ⟨valid, outside, unlisted⟩ := CaseRun.lowered_of_mem listed lists
  have same : (Char.ofNat (run.lowered code)).toNat = run.lowered code := toNat_ofNat valid
  have other : ∀ c : Char, (c.toNat, c.toNat) ∈ CaseRun.excluded →
      Char.ofNat (run.lowered code) ≠ c := by
    rintro c member rfl
    rw [same] at member
    exact outside _ member ⟨Nat.le_refl _, Nat.le_refl _⟩
  refine ⟨⟨other 'Σ' (by decide), lowerChar_eq_self (other 'İ' (by decide)) ?_⟩, ?_⟩
  · rwa [same]
  · refine Bool.eq_false_iff.2 fun space => ?_
    obtain ⟨interval, member, within⟩ := (whiteSpace.covers_iff _).1 space
    rw [same] at within
    exact outside interval (List.mem_append_right _ member) within

theorem isLow_of_mem_lowerChar {c d : Char} (member : d ∈ lowerChar c) :
    IsLow d ∧ (isSpace d = true → isSpace c = true) := by
  unfold lowerChar at member
  split at member
  · have letter : IsLow 'i' ∧ isSpace 'i' = false := by decide +kernel
    have dot : IsLow (Char.ofNat 0x307) ∧ isSpace (Char.ofNat 0x307) = false := by decide +kernel
    have both : IsLow d ∧ isSpace d = false := by
      rcases List.mem_pair.1 member with rfl | rfl
      · exact letter
      · exact dot
    exact ⟨both.1, fun space => absurd space (Bool.eq_false_iff.1 both.2)⟩
  · rename_i plain
    split at member
    · rename_i run found
      cases List.mem_singleton.1 member
      have lists : run.lists c.toNat = true := by simpa using List.find?_some found
      obtain ⟨low, solid⟩ := isLow_lowered (List.mem_of_find?_eq_some found) lists
      exact ⟨low, fun space => absurd space (Bool.eq_false_iff.1 solid)⟩
    · rename_i none
      cases List.mem_singleton.1 member
      have unlisted : ∀ run ∈ caseRuns, run.lists c.toNat = false := fun run listed =>
        Bool.eq_false_iff.2 (List.find?_eq_none.1 none run listed)
      refine ⟨⟨?_, lowerChar_eq_self plain unlisted⟩, id⟩
      rintro rfl
      exact absurd none (by decide +kernel)

/-- The lowercase form of a character where it stands: its own, or that of a sigma at the end of a
word. -/
def Piece (c : Char) (piece : List Char) : Prop := piece = lowerChar c ∨ c = 'Σ' ∧ piece = ['ς']

theorem exists_pieces (before text : List Char) :
    ∃ pieces, List.Forall₂ Piece text pieces ∧ lowerAfter before text = pieces.flatten := by
  induction text generalizing before with
  | nil => exact ⟨[], .nil, rfl⟩
  | cons c after ih =>
      obtain ⟨pieces, lowered, same⟩ := ih (c :: before)
      rw [lowerAfter, same]
      split
      · rename_i final
        exact ⟨['ς'] :: pieces, .cons (.inr ⟨final.1, rfl⟩) lowered, rfl⟩
      · exact ⟨lowerChar c :: pieces, .cons (.inl rfl) lowered, rfl⟩

variable {c d : Char} {piece text : List Char} {pieces : List (List Char)}

theorem Piece.ne_nil (lowered : Piece c piece) : piece ≠ [] := by
  rcases lowered with rfl | ⟨-, rfl⟩
  · unfold lowerChar
    repeat' split
    all_goals exact List.cons_ne_nil _ _
  · exact List.cons_ne_nil _ _

theorem Piece.isLow (lowered : Piece c piece) (member : d ∈ piece) :
    IsLow d ∧ (isSpace d = true → isSpace c = true) := by
  rcases lowered with rfl | ⟨-, rfl⟩
  · exact isLow_of_mem_lowerChar member
  · cases List.mem_singleton.1 member
    have low : IsLow 'ς' ∧ isSpace 'ς' = false := by decide +kernel
    exact ⟨low.1, fun space => absurd space (Bool.eq_false_iff.1 low.2)⟩

theorem isLow_of_mem_lower (member : d ∈ lower text) : IsLow d := by
  obtain ⟨pieces, lowered, same⟩ := exists_pieces [] text
  rw [lower, same] at member
  clear same
  induction lowered with
  | nil => cases member
  | cons one _ ih => exact (List.mem_append.1 member).elim (fun within => (one.isLow within).1) ih

theorem lowerAfter_eq_self (low : ∀ c ∈ text, IsLow c) (before : List Char) :
    lowerAfter before text = text := by
  induction text generalizing before with
  | nil => rfl
  | cons c after ih =>
      obtain ⟨⟨noSigma, same⟩, later⟩ := List.forall_mem_cons.1 low
      rw [lowerAfter, ih later, if_neg fun final => noSigma final.1, same]
      rfl

/-- A text in lowercase stays as it is. -/
theorem lower_lower (text : List Char) : lower (lower text) = lower text :=
  lowerAfter_eq_self (fun _ => isLow_of_mem_lower) []

theorem startsSolid_flatten
    (kept : List.Forall₂ (fun c piece => piece ≠ [] ∧
      ∀ d ∈ piece, isSpace d = true → isSpace c = true) text pieces)
    (solid : StartsSolid text) : StartsSolid pieces.flatten := by
  cases kept with
  | nil => exact solid
  | @cons c piece text pieces first _ =>
      obtain ⟨some, fromSpace⟩ := first
      obtain ⟨d, rest, rfl⟩ := List.exists_cons_of_ne_nil some
      intro e head
      cases head
      exact Bool.eq_false_iff.2 fun space =>
        Bool.eq_false_iff.1 (solid c rfl) (fromSpace d List.mem_cons_self space)

/-- A text that is trimmed is still trimmed in lowercase. -/
theorem trim_lower (first : StartsSolid text) (last : StartsSolid text.reverse) :
    trim (lower text) = lower text := by
  obtain ⟨pieces, lowered, same⟩ := exists_pieces [] text
  have kept := lowered.imp fun c piece one =>
    (⟨one.ne_nil, fun d member => (one.isLow member).2⟩ :
      piece ≠ [] ∧ ∀ d ∈ piece, isSpace d = true → isSpace c = true)
  refine trim_of_solid ?_ ?_
  · rw [lower, same]
    exact startsSolid_flatten kept first
  · rw [lower, same, List.reverse_flatten]
    refine startsSolid_flatten ?_ last
    rw [List.forall₂_reverse_iff, List.forall₂_map_right_iff]
    refine kept.imp fun c piece one => ?_
    simpa using one

section Ascii

/-- What is the same for an ASCII letter and its capital. -/
structure Alike (c d : Char) : Prop where
  lowered : lowerChar c = lowerChar d
  space : isSpace c = isSpace d
  cased : cased.covers c = cased.covers d
  ignored : caseIgnorable.covers c = caseIgnorable.covers d
  sigma : c = 'Σ' ↔ d = 'Σ'

instance (c d : Char) : Decidable (Alike c d) :=
  decidable_of_iff (lowerChar c = lowerChar d ∧ isSpace c = isSpace d ∧
      Text.cased.covers c = Text.cased.covers d ∧
      caseIgnorable.covers c = caseIgnorable.covers d ∧ (c = 'Σ' ↔ d = 'Σ'))
    ⟨fun ⟨a, b, c, d, e⟩ => ⟨a, b, c, d, e⟩, fun ⟨a, b, c, d, e⟩ => ⟨a, b, c, d, e⟩⟩

theorem toLower_eq_self (other : ¬ (65 ≤ c.toNat ∧ c.toNat ≤ 90)) : c.toLower = c := by
  refine dif_neg fun capital => other ?_
  have first : 'A'.val.toNat ≤ c.val.toNat := UInt32.le_iff_toNat_le.1 capital.1
  have last : c.val.toNat ≤ 'Z'.val.toNat := UInt32.le_iff_toNat_le.1 capital.2
  exact ⟨first, last⟩

theorem alike_toLower (c : Char) : Alike c.toLower c := by
  have letters : ∀ place : Fin 26,
      Alike (Char.ofNat (65 + place)).toLower (Char.ofNat (65 + place)) := by
    decide +kernel
  by_cases capital : 65 ≤ c.toNat ∧ c.toNat ≤ 90
  · have place : c.toNat - 65 < 26 := by omega
    have code : 65 + (c.toNat - 65) = c.toNat := by omega
    have letter := letters ⟨c.toNat - 65, place⟩
    rwa [code, Char.ofNat_toNat] at letter
  · rw [toLower_eq_self capital]
    exact ⟨rfl, rfl, rfl, rfl, Iff.rfl⟩

theorem leadsToCased_map_toLower (text : List Char) :
    leadsToCased (text.map Char.toLower) = leadsToCased text := by
  have ignored : caseIgnorable.covers ∘ Char.toLower = caseIgnorable.covers :=
    funext fun c => (alike_toLower c).ignored
  unfold leadsToCased
  rw [List.dropWhile_map, ignored]
  cases text.dropWhile caseIgnorable.covers with
  | nil => rfl
  | cons c _ => exact (alike_toLower c).cased

theorem lowerAfter_map_toLower (before text : List Char) :
    lowerAfter (before.map Char.toLower) (text.map Char.toLower) = lowerAfter before text := by
  induction text generalizing before with
  | nil => rfl
  | cons c after ih =>
      rw [List.map_cons, lowerAfter, lowerAfter, endsWord, endsWord, leadsToCased_map_toLower,
        leadsToCased_map_toLower, (alike_toLower c).lowered, ← List.map_cons, ih (c :: before)]
      simp only [(alike_toLower c).sigma]

theorem trim_map_toLower (text : List Char) :
    trim (text.map Char.toLower) = (trim text).map Char.toLower := by
  have space : isSpace ∘ Char.toLower = isSpace := funext fun c => (alike_toLower c).space
  simp only [trim, trimEnd, trimStart, List.dropWhile_map, space, ← List.map_reverse]

/-- The lowercase form of a text does not depend on which of its ASCII letters are capitals. -/
theorem lower_trim_congr {text other : List Char}
    (letters : text.map Char.toLower = other.map Char.toLower) :
    lower (trim text) = lower (trim other) := by
  have plain (text : List Char) : lower (trim (text.map Char.toLower)) = lower (trim text) := by
    rw [trim_map_toLower]
    exact lowerAfter_map_toLower [] (trim text)
  rw [← plain text, letters, plain]

end Ascii

end ClubOffice.Text
