import ClubOffice.Proofs.Text.Spelling
import ClubOffice.Proofs.Time.Calendar
import ClubOffice.Time.Reader
import ClubOffice.Time.Written

/-!
# Instants are read as they are written

The reader takes many forms of a date with a time of day; the written form is one of them, in every
year there is, with any fraction and in a leap second. What is read of it is the regular instant
that has this form, and so the instant that was written, unless it is in a leap second within a
minute. Each field is a number that fills its width, followed by what no number goes on with.
-/

namespace ClubOffice.Time

open Text

variable {rest : List Char} {n width most least greatest : Nat}

theorem readNumber_padded (short : (padded width n).length ≤ most) (breaks : Breaks rest) :
    readNumber most (padded width n ++ rest) = some (n, rest) := by
  have digits : ∀ c ∈ padded width n, c.isDigit = true := fun _ => isDigit_of_mem_padded
  have taken : ((padded width n ++ rest).take most).takeWhile Char.isDigit = padded width n := by
    rw [List.take_append, List.take_of_length_le short]
    exact takeWhile_digits digits (breaks.take _)
  have some : (padded width n).isEmpty = false :=
    Bool.eq_false_iff.2 fun empty => padded_ne_nil width n (List.isEmpty_iff.1 empty)
  simp only [readNumber, taken, some, ofDigitChars_padded, List.drop_left, Bool.false_eq_true,
    if_false]

/-- A field of two digits is read as the number in it. -/
theorem readField_padded (within : least ≤ n ∧ n ≤ greatest) (fits : n < 100)
    (breaks : Breaks rest) : readField 2 least greatest (padded 2 n ++ rest) = some (n, rest) := by
  have short : (padded 2 n).length ≤ 2 := Nat.le_of_eq (length_padded (by decide) fits)
  rw [readField, trimStart_of_solid (startsSolid_padded 2 n rest), readNumber_padded short breaks]
  exact if_pos within

theorem readSeparator_cons {c : Char} (solid : isSpace c = false) :
    readSeparator c (c :: rest) = some rest := by
  rw [readSeparator, trimStart_of_solid (by rintro _ ⟨⟩; exact solid)]
  exact if_pos rfl

/-- A year with a sign has any number of digits. -/
theorem readYear_signed {year : Int} (known : firstYear ≤ year ∧ year ≤ lastYear)
    (breaks : Breaks rest) :
    readYear ((if year < 0 then '-' else '+') :: (padded 4 year.natAbs ++ rest)) =
      some (year, rest) := by
  have short : (padded 4 year.natAbs).length ≤ (padded 4 year.natAbs ++ rest).length := by
    rw [List.length_append]
    exact Nat.le_add_right _ _
  have read := readNumber_padded (n := year.natAbs) short breaks
  by_cases negative : year < 0
  · have value : -1 * (year.natAbs : Int) = year := by omega
    rw [if_pos negative, readYear, trimStart_of_solid (by rintro _ ⟨⟩; decide)]
    simp only [read, value]
    exact if_pos known
  · have value : 1 * (year.natAbs : Int) = year := by omega
    rw [if_neg negative, readYear, trimStart_of_solid (by rintro _ ⟨⟩; decide)]
    simp only [read, value]
    exact if_pos known

theorem readYear_plain {year : Int} (known : firstYear ≤ year ∧ year ≤ lastYear)
    (plain : 0 ≤ year ∧ year ≤ 9999) (breaks : Breaks rest) :
    readYear (padded 4 year.toNat ++ rest) = some (year, rest) := by
  have fits : year.toNat < 10 ^ 4 := by omega
  have value : 1 * (year.toNat : Int) = year := by omega
  have read : readNumber 4 (padded 4 year.toNat ++ rest) = some (year.toNat, rest) :=
    readNumber_padded (Nat.le_of_eq (length_padded (by decide) fits)) breaks
  have digits : ∀ c ∈ padded 4 year.toNat, c.isDigit = true := fun _ => isDigit_of_mem_padded
  rw [readYear, trimStart_of_solid (startsSolid_padded 4 _ rest)]
  obtain ⟨c, others, same⟩ := List.exists_cons_of_ne_nil (padded_ne_nil 4 year.toNat)
  rw [same, List.cons_append] at read ⊢
  have digit : c.isDigit = true := digits c (same ▸ List.mem_cons_self)
  -- The first character is a digit, and so neither of the signs.
  split
  rename_i sign
  split at sign
  · rename_i minus
    cases minus
    cases digit
  · rename_i plus
    cases plus
    cases digit
  · cases sign
    simp only [read, value]
    exact if_pos known

theorem readYear_yearText {year : Int} (known : firstYear ≤ year ∧ year ≤ lastYear)
    (breaks : Breaks rest) : readYear (yearText year ++ rest) = some (year, rest) := by
  unfold yearText
  split
  · rename_i plain
    exact readYear_plain known plain breaks
  · exact readYear_signed known breaks

theorem readDate_dateText {date : Date} (known : firstYear ≤ date.year ∧ date.year ≤ lastYear)
    (found : date.Exists) (breaks : Breaks rest) :
    readDate (dateText date ++ rest) = some (date, rest) := by
  have inside := found
  obtain ⟨month_pos, month_le, day_pos, day_le⟩ := inside
  have short := Date.daysInMonth_le date.year date.month
  have year (rest : List Char) :
      readYear (yearText date.year ++ '-' :: rest) = some (date.year, '-' :: rest) :=
    readYear_yearText known (breaks_cons (by decide))
  have month : readField 2 1 12 (padded 2 date.month ++ '-' :: (padded 2 date.day ++ rest)) =
      some (date.month, '-' :: (padded 2 date.day ++ rest)) :=
    readField_padded ⟨month_pos, month_le⟩ (by omega) (breaks_cons (by decide))
  have day : readField 2 1 31 (padded 2 date.day ++ rest) = some (date.day, rest) :=
    readField_padded ⟨day_pos, by omega⟩ (by omega) breaks
  have dash (rest : List Char) : readSeparator '-' ('-' :: rest) = some rest :=
    readSeparator_cons (by decide)
  simp only [readDate, dateText, List.append_assoc, List.cons_append, year, dash, month, day,
    Option.bind_eq_bind, Option.bind_some]
  exact if_pos found

theorem readFraction_digits {width n : Nat} (positive : 0 < width) (few : width ≤ 9)
    (fits : n < 10 ^ width) (breaks : Breaks rest) :
    readFraction ('.' :: (padded width n ++ rest)) = some (n * 10 ^ (9 - width), rest) := by
  have length : (padded width n).length = width := length_padded positive fits
  have past : rest.dropWhile Char.isDigit = rest := by
    cases rest with
    | nil => rfl
    | cons c rest => exact List.dropWhile_cons_of_neg (Bool.eq_false_iff.1 (breaks c rfl))
  simp only [readFraction, readNumber_padded (Nat.le_trans (Nat.le_of_eq length) few) breaks,
    Option.bind_eq_bind, Option.bind_some, List.length_append, length, Nat.add_sub_cancel, past]
  rfl

/-- A fraction has the fewest digits, in threes, that are exact, and none if it is zero. -/
theorem readFraction_fractionText {nanos : Nat} (below : nanos < nanosPerSecond)
    (breaks : Breaks rest) (pointless : rest.head? ≠ some '.') :
    readFraction (fractionText nanos ++ rest) = some (nanos, rest) := by
  unfold fractionText
  simp only [nanosPerSecond] at below
  split
  · rename_i zero
    subst zero
    rw [List.nil_append]
    unfold readFraction
    split
    · exact absurd rfl pointless
    · rfl
  · split
    · rename_i millis
      rw [List.cons_append, readFraction_digits (by decide) (by decide) (by omega) breaks]
      have whole : nanos / 1000000 * 10 ^ (9 - 3) = nanos := by omega
      rw [whole]
    · split
      · rename_i micros
        rw [List.cons_append, readFraction_digits (by decide) (by decide) (by omega) breaks]
        have whole : nanos / 1000 * 10 ^ (9 - 6) = nanos := by omega
        rw [whole]
      · rw [List.cons_append, readFraction_digits (by decide) (by decide) (by omega) breaks]
        have whole : nanos * 10 ^ (9 - 9) = nanos := by omega
        rw [whole]

theorem breaks_fractionText (nanos : Nat) (breaks : Breaks rest) :
    Breaks (fractionText nanos ++ rest) := by
  unfold fractionText
  repeat' split
  · exact breaks
  all_goals exact breaks_cons (by decide)

/-- The seconds run on to sixty in a leap second, of which a clock shows what is left of the
nanoseconds after the first second. -/
theorem clockText_shows {instant : Instant} (regular : instant.Regular) : ∃ second nanos,
    second ≤ 60 ∧ nanos < nanosPerSecond ∧ min second 59 = instant.secondOfDay % 60 ∧
    (if second = 60 then nanos + nanosPerSecond else nanos) = instant.nanos ∧
    clockText instant = padded 2 (instant.secondOfDay / 3600) ++
      ':' :: padded 2 (instant.secondOfDay / 60 % 60) ++ ':' :: padded 2 second ++
      fractionText nanos := by
  have nanos_lt := instant.nanos_lt
  have late : instant.secondOfDay % 60 < 60 := Nat.mod_lt _ (by decide)
  by_cases leap : nanosPerSecond ≤ instant.nanos
  · have last : instant.secondOfDay % 60 = 59 := by
      have minute := regular leap
      simp only [Instant.secondOfDay, secondsPerDay]
      omega
    refine ⟨60, instant.nanos - nanosPerSecond, by omega, by omega, by omega, ?_, ?_⟩
    · rw [if_pos rfl]
      exact Nat.sub_add_cancel leap
    · rw [clockText, decide_eq_true leap, last, Bool.toNat_true, Nat.one_mul]
  · refine ⟨instant.secondOfDay % 60, instant.nanos, by omega, by omega, by omega, ?_, ?_⟩
    · exact if_neg (by omega)
    · rw [clockText, decide_eq_false leap, Bool.toNat_false, Nat.zero_mul, Nat.add_zero,
        Nat.sub_zero]

theorem readClock_clockText {instant : Instant} (regular : instant.Regular)
    (breaks : Breaks rest) (solid : StartsSolid rest) (pointless : rest.head? ≠ some '.') :
    readClock (clockText instant ++ rest) =
      some ((instant.secondOfDay, instant.nanos), rest) := by
  obtain ⟨second, nanos, second_le, nanos_lt, shown, counted, shape⟩ :=
    clockText_shows regular
  have below : instant.secondOfDay < 86400 := by
    simp only [Instant.secondOfDay, secondsPerDay]
    omega
  have colon (rest : List Char) : readSeparator ':' (':' :: rest) = some rest :=
    readSeparator_cons (by decide)
  have hour (rest : List Char) :
      readField 2 0 23 (padded 2 (instant.secondOfDay / 3600) ++ ':' :: rest) =
        some (instant.secondOfDay / 3600, ':' :: rest) :=
    readField_padded (by omega) (by omega) (breaks_cons (by decide))
  have minute (rest : List Char) :
      readField 2 0 59 (padded 2 (instant.secondOfDay / 60 % 60) ++ ':' :: rest) =
        some (instant.secondOfDay / 60 % 60, ':' :: rest) :=
    readField_padded (by omega) (by omega) (breaks_cons (by decide))
  have seconds : readField 2 0 60 (padded 2 second ++ (fractionText nanos ++ rest)) =
      some (second, fractionText nanos ++ rest) :=
    readField_padded (by omega) (by omega) (breaks_fractionText nanos breaks)
  have moment : instant.secondOfDay / 3600 * 3600 + instant.secondOfDay / 60 % 60 * 60 +
      instant.secondOfDay % 60 = instant.secondOfDay := by omega
  simp only [readClock, shape, List.append_assoc, List.cons_append, hour, minute, colon, seconds,
    readFraction_fractionText nanos_lt breaks pointless, shown, counted, moment,
    trimStart_of_solid solid, Option.bind_eq_bind, Option.bind_some]

namespace Instant

/-- The regular instant that has the same written form: a leap second within a minute looks like
the second that follows it. -/
def shown (instant : Instant) : Instant :=
  if regular : instant.Regular then instant
  else
    have within := not_regular_iff.1 regular
    have next_le := instant.next_le within.1 within.2
    ⟨instant.seconds + 1, instant.nanos - nanosPerSecond, Int.le_add_one instant.first_le, next_le,
      Nat.lt_of_le_of_lt (Nat.sub_le _ _) instant.nanos_lt, fun _ => next_le_last next_le⟩

theorem shown_of_regular {instant : Instant} (regular : instant.Regular) :
    instant.shown = instant := dif_pos regular

theorem shown_of_irregular {instant : Instant} (irregular : ¬ instant.Regular) :
    instant.shown.seconds = instant.seconds + 1 ∧
      instant.shown.nanos = instant.nanos - nanosPerSecond := by
  rw [shown, dif_neg irregular]
  exact ⟨rfl, rfl⟩

theorem regular_shown (instant : Instant) : instant.shown.Regular := by
  by_cases regular : instant.Regular
  · rwa [shown_of_regular regular]
  · have nanos_lt := instant.nanos_lt
    intro leap
    rw [(shown_of_irregular regular).2] at leap
    omega

theorem shown_eq_self_iff {instant : Instant} : instant.shown = instant ↔ instant.Regular :=
  ⟨fun same => same ▸ instant.regular_shown, shown_of_regular⟩

theorem regular_of_read {text : List Char} {instant : Instant}
    (found : read text = some instant) : instant.Regular := by
  simp only [read, Option.bind_eq_bind, Option.bind_eq_some_iff] at found
  obtain ⟨⟨date, rest⟩, -, found⟩ := found
  -- Whatever stands between date and time of day, the instant is made of its parts in the end.
  split at found
  all_goals
    obtain ⟨_, -, found⟩ := Option.bind_eq_some_iff.1 found
    obtain ⟨_, -, found⟩ := Option.bind_eq_some_iff.1 found
    obtain ⟨_, -, found⟩ := Option.bind_eq_some_iff.1 found
    split at found
    · exact regular_of_ofParts? found
    · cases found

/-- A second that does not end its minute is followed by another one of the same minute. -/
theorem secondOfDay_succ {seconds : Int} (inside : seconds % 60 ≠ 59) :
    (seconds + 1) / secondsPerDay = seconds / secondsPerDay ∧
      ((seconds + 1) % secondsPerDay).toNat = (seconds % secondsPerDay).toNat + 1 ∧
      (seconds % secondsPerDay).toNat % 60 ≠ 59 := by
  simp only [secondsPerDay]
  omega

theorem clockText_shown {instant : Instant} (irregular : ¬ instant.Regular) :
    clockText instant.shown = clockText instant := by
  obtain ⟨leap, inside⟩ := not_regular_iff.1 irregular
  obtain ⟨seconds, nanos⟩ := shown_of_irregular irregular
  obtain ⟨-, second, unfinished⟩ := secondOfDay_succ inside
  change _ = instant.secondOfDay + 1 at second
  change instant.secondOfDay % 60 ≠ 59 at unfinished
  have later : instant.shown.secondOfDay = instant.secondOfDay + 1 := by
    rw [secondOfDay, seconds, second]
  have hour : (instant.secondOfDay + 1) / 3600 = instant.secondOfDay / 3600 := by omega
  have minute : (instant.secondOfDay + 1) / 60 = instant.secondOfDay / 60 := by omega
  have next : (instant.secondOfDay + 1) % 60 = instant.secondOfDay % 60 + 1 := by omega
  have below : ¬ nanosPerSecond ≤ instant.nanos - nanosPerSecond := by
    have nanos_lt := instant.nanos_lt
    omega
  rw [clockText, clockText, later, nanos, hour, minute, next, decide_eq_true leap,
    decide_eq_false below, Bool.toNat_true, Bool.toNat_false, Nat.zero_mul, Nat.one_mul,
    Nat.add_zero, Nat.sub_zero]

theorem zulu_shown (instant : Instant) : instant.shown.zulu = instant.zulu := by
  by_cases regular : instant.Regular
  · rw [shown_of_regular regular]
  · have sameDay := (secondOfDay_succ (not_regular_iff.1 regular).2).1
    have sameDate : instant.shown.date = instant.date := by
      rw [Instant.date, (shown_of_irregular regular).1, sameDay, Instant.date]
    rw [zulu, written, clockText_shown regular, sameDate, zulu, written]

theorem read_zulu_of_regular {instant : Instant} (regular : instant.Regular) :
    read instant.zulu.toList = some instant := by
  have date : readDate (dateText instant.date ++ ('T' :: (clockText instant ++ ['Z']))) =
      some (instant.date, 'T' :: (clockText instant ++ ['Z'])) :=
    readDate_dateText (Date.year_ofDays instant.first_le instant.le_last)
      (Date.exists_ofDays (instant.seconds / secondsPerDay)) (breaks_cons (by decide))
  have clock : readClock (clockText instant ++ ['Z']) =
      some ((instant.secondOfDay, instant.nanos), ['Z']) :=
    readClock_clockText regular (breaks_cons (by decide)) (by rintro _ ⟨⟩; decide) (by decide)
  have zone : readOffset ['Z'] = some (0, []) := by decide
  have whole : instant.date.toDays * secondsPerDay + instant.secondOfDay - 0 = instant.seconds := by
    rw [Instant.date, Date.toDays_ofDays, secondOfDay, Int.toNat_of_nonneg
      (Int.emod_nonneg _ (by decide)), Int.sub_zero, Int.mul_comm]
    exact Int.mul_ediv_add_emod _ _
  simp only [read, zulu, written, String.toList_ofList, List.append_assoc,
    List.nil_append, List.cons_append, date, clock, zone, whole, Option.bind_eq_bind,
    Option.bind_some]
  exact ofParts?_parts regular

/-- What is read of the written form of an instant is the regular instant that has this form. -/
theorem read_zulu (instant : Instant) : read instant.zulu.toList = some instant.shown := by
  rw [← zulu_shown, read_zulu_of_regular instant.regular_shown]

end Instant

end ClubOffice.Time
