import ClubOffice.Time.Instant
import Mathlib.Tactic.IntervalCases

/-!
# Days and dates

A number of days is turned into a date and back through the years that begin in March. Such a year
is the year of an era of four centuries, and a day is a day of such a year; both ways of counting
come to the same, and every date that a number of days is turned into exists.
-/

namespace ClubOffice.Time.Date

/-- The date of a day, counted from 0, of a year that begins in March. -/
def ofMarch (marchYear : Int) (inYear : Nat) : Date :=
  let marchMonth := (5 * inYear + 2) / 153
  { year := if marchMonth < 10 then marchYear else marchYear + 1
    month := if marchMonth < 10 then marchMonth + 3 else marchMonth - 9
    day := inYear - monthStart marchMonth + 1 }

/-- Where a day of an era is in it: the century, the four years, the year and the day of that. -/
structure Place (inEra century quad single inYear : Nat) : Prop where
  century_le : century ≤ 3
  quad_le : quad ≤ 24
  single_le : single ≤ 3
  inYear_le : inYear ≤ 365
  sum : inEra = century * daysOf100 + quad * daysOf4 + single * 365 + inYear
  leap : inYear = 365 → single = 3 ∧ (quad < 24 ∨ century = 3)

theorem place_of_lt {inEra century inCentury quad inQuad single : Nat} (below : inEra < daysOf400)
    (inCenturies : century = min 3 (inEra / daysOf100))
    (restOfEra : inCentury = inEra - century * daysOf100)
    (inQuads : quad = inCentury / daysOf4) (restOfCentury : inQuad = inCentury % daysOf4)
    (inSingles : single = min 3 (inQuad / 365)) :
    Place inEra century quad single (inQuad - single * 365) := by
  simp only [daysOf400, daysOf100, daysOf4] at *
  have ends : inCentury ≤ 36524 ∧ (inCentury = 36524 → century = 3) ∧ century ≤ 3 ∧
      inEra = century * 36524 + inCentury := by omega
  have years : inQuad ≤ 1460 ∧ quad ≤ 24 ∧ inCentury = quad * 1461 + inQuad := by omega
  have last : inQuad = 1460 → quad < 24 ∨ century = 3 := by omega
  exact
    { century_le := by omega
      quad_le := by omega
      single_le := by omega
      inYear_le := by omega
      sum := by simp only [daysOf100, daysOf4]; omega
      leap := by omega }

theorem ofDays_eq (days : Int) :
    ∃ (era : Int) (inEra century quad single inYear : Nat),
      Place inEra century quad single inYear ∧
        days = era * daysOf400 + inEra - daysToEpoch ∧
        ofDays days = ofMarch (era * 400 + (century * 100 + quad * 4 + single : Nat)) inYear := by
  have positive : (0 : Int) < daysOf400 := by decide
  have below : ((days + daysToEpoch) % daysOf400).toNat < daysOf400 := by
    have := Int.emod_lt_of_pos (days + daysToEpoch) positive
    omega
  refine ⟨_, _, _, _, _, _, place_of_lt below rfl rfl rfl rfl rfl, ?_, rfl⟩
  have nonneg := Int.emod_nonneg (days + daysToEpoch) (Int.ne_of_gt positive)
  have whole := Int.mul_ediv_add_emod (days + daysToEpoch) daysOf400
  rw [Int.toNat_of_nonneg nonneg, Int.mul_comm]
  omega

/-- The day on which a year that begins in March begins. -/
def marchStart (marchYear : Int) : Int :=
  let inEra := (marchYear % 400).toNat
  marchYear / 400 * daysOf400 +
    (inEra / 100 * daysOf100 + inEra % 100 / 4 * daysOf4 + inEra % 4 * 365 : Nat) - daysToEpoch

theorem toDays_ofMarch {marchYear : Int} {inYear : Nat} (within : inYear ≤ 365) :
    toDays (ofMarch marchYear inYear) = marchStart marchYear + inYear := by
  have month : (5 * inYear + 2) / 153 ≤ 11 ∧ monthStart ((5 * inYear + 2) / 153) ≤ inYear := by
    unfold monthStart
    omega
  obtain ⟨last, started⟩ := month
  unfold toDays ofMarch marchStart
  generalize (5 * inYear + 2) / 153 = marchMonth at last started
  by_cases early : marchMonth < 10
  · have later : 3 ≤ marchMonth + 3 := Nat.le_add_left 3 marchMonth
    simp only [if_pos early, if_pos later, Nat.add_sub_cancel]
    omega
  · have earlier : ¬ 3 ≤ marchMonth - 9 := by omega
    have back : marchMonth - 9 + 9 = marchMonth := by omega
    simp only [if_neg early, if_neg earlier, Nat.add_sub_cancel, back, Int.add_sub_cancel]
    omega

theorem marchStart_of_place {inEra century quad single inYear : Nat} (era : Int)
    (place : Place inEra century quad single inYear) :
    marchStart (era * 400 + (century * 100 + quad * 4 + single : Nat)) + inYear =
      era * daysOf400 + inEra - daysToEpoch := by
  obtain ⟨_, _, _, _, sum, _⟩ := place
  generalize yearOfEra : century * 100 + quad * 4 + single = year
  have era_eq : (era * 400 + (year : Int)) / 400 = era := by omega
  have year_eq : ((era * 400 + (year : Int)) % 400).toNat = year := by omega
  have parts : year / 100 = century ∧ year % 100 / 4 = quad ∧ year % 4 = single := by omega
  obtain ⟨hundreds, fours, ones⟩ := parts
  simp only [marchStart, era_eq, year_eq, hundreds, fours, ones]
  omega

/-- A number of days is the number of days of its date. -/
theorem toDays_ofDays (days : Int) : toDays (ofDays days) = days := by
  obtain ⟨era, inEra, century, quad, single, inYear, place, sum, same⟩ := ofDays_eq days
  rw [same, toDays_ofMarch place.inYear_le, marchStart_of_place era place, sum]

theorem exists_ofMarch {marchYear : Int} {inYear : Nat} (within : inYear ≤ 365)
    (leap : inYear = 365 → isLeap (marchYear + 1) = true) : (ofMarch marchYear inYear).Exists := by
  have month : (5 * inYear + 2) / 153 ≤ 11 := by omega
  have bounds : 153 * ((5 * inYear + 2) / 153) ≤ 5 * inYear + 2 ∧
      5 * inYear + 2 < 153 * ((5 * inYear + 2) / 153) + 153 := by omega
  unfold ofMarch Exists daysInMonth monthStart
  generalize (5 * inYear + 2) / 153 = marchMonth at month bounds
  obtain ⟨first, last⟩ := bounds
  by_cases february : marchMonth = 11
  · subst february
    cases leapYear : isLeap (marchYear + 1) with
    | true => simp [leapYear]; omega
    | false =>
        have short : inYear ≠ 365 := fun long => by rw [leap long] at leapYear; cases leapYear
        simp [leapYear]; omega
  · interval_cases marchMonth <;> simp at february ⊢ <;> omega

theorem exists_ofDays (days : Int) : (ofDays days).Exists := by
  obtain ⟨era, inEra, century, quad, single, inYear, place, -, same⟩ := ofDays_eq days
  rw [same]
  refine exists_ofMarch place.inYear_le fun last => ?_
  obtain ⟨rfl, within⟩ := place.leap last
  have quad_le := place.quad_le
  have century_le := place.century_le
  simp only [isLeap, Bool.and_eq_true, Bool.or_eq_true, beq_iff_eq, bne_iff_ne]
  omega

theorem daysInMonth_le (year : Int) (month : Nat) : daysInMonth year month ≤ 31 := by
  unfold daysInMonth
  repeat' split
  all_goals decide

/-- Years have 365 days, one more every four years, not every hundred, yet every four hundred. -/
theorem marchStart_eq (marchYear : Int) :
    marchStart marchYear =
      365 * marchYear + marchYear / 4 - marchYear / 100 + marchYear / 400 - daysToEpoch := by
  simp only [marchStart, daysOf400, daysOf100, daysOf4, daysToEpoch]
  omega

/-- The dates of all seconds that there are lie in the years that there are. -/
theorem year_ofDays {seconds : Int} (first : firstSecond ≤ seconds) (last : seconds ≤ lastSecond) :
    firstYear ≤ (ofDays (seconds / secondsPerDay)).year ∧
      (ofDays (seconds / secondsPerDay)).year ≤ lastYear := by
  obtain ⟨era, inEra, century, quad, single, inYear, place, sum, same⟩ :=
    ofDays_eq (seconds / secondsPerDay)
  have within := place.inYear_le
  have started := marchStart_of_place era place
  rw [← sum, marchStart_eq] at started
  rw [same]
  generalize era * 400 + ((century * 100 + quad * 4 + single : Nat) : Int) = marchYear at started
  simp only [ofMarch, firstSecond, lastSecond, firstYear, lastYear, secondsPerDay,
    daysToEpoch] at *
  -- Of the years from March at both ends, only the last months and only the first are there.
  have years : marchYear = -262144 ∨ -262143 ≤ marchYear ∧ marchYear ≤ 262141 ∨
      marchYear = 262142 := by omega
  rcases years with rfl | inside | rfl <;> split <;> omega

end ClubOffice.Time.Date
