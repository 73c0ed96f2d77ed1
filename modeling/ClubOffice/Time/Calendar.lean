/-!
# The calendar

Days are counted from the first of January 1970, forwards and backwards, and dates follow the
Gregorian rule in every year. Both directions go through years that begin in March, which puts
the leap day at the end: four centuries, then centuries, then four years, then years.
-/

namespace ClubOffice.Time

/-- A date by year, month and day of the month. -/
structure Date where
  year : Int
  month : Nat
  day : Nat
deriving DecidableEq, Repr

namespace Date

/-- Whether the Gregorian calendar gives the year a leap day. -/
def isLeap (year : Int) : Bool := year % 4 == 0 && (year % 100 != 0 || year % 400 == 0)

def daysInMonth (year : Int) (month : Nat) : Nat :=
  if month = 2 then (if isLeap year then 29 else 28)
  else if month = 4 ∨ month = 6 ∨ month = 9 ∨ month = 11 then 30
  else 31

def Exists (date : Date) : Prop :=
  1 ≤ date.month ∧ date.month ≤ 12 ∧ 1 ≤ date.day ∧ date.day ≤ daysInMonth date.year date.month

instance (date : Date) : Decidable date.Exists :=
  inferInstanceAs (Decidable (_ ∧ _ ∧ _ ∧ _))

/-- The days of four centuries, of a century, and of four years, when no leap day is left out. -/
def daysOf400 : Nat := 146097

def daysOf100 : Nat := 36524

def daysOf4 : Nat := 1461

/-- From the first of March of the year 0 to the first of January 1970. -/
def daysToEpoch : Int := 719468

/-- The day of a year that begins in March on which its `month`th month begins, from 0. -/
def monthStart (month : Nat) : Nat := (153 * month + 2) / 5

def ofDays (days : Int) : Date :=
  let shifted := days + daysToEpoch
  let era := shifted / daysOf400
  let inEra := (shifted % daysOf400).toNat
  let century := min 3 (inEra / daysOf100)
  let inCentury := inEra - century * daysOf100
  let quad := inCentury / daysOf4
  let inQuad := inCentury % daysOf4
  let single := min 3 (inQuad / 365)
  let inYear := inQuad - single * 365
  let marchMonth := (5 * inYear + 2) / 153
  let marchYear := era * 400 + (century * 100 + quad * 4 + single : Nat)
  { year := if marchMonth < 10 then marchYear else marchYear + 1
    month := if marchMonth < 10 then marchMonth + 3 else marchMonth - 9
    day := inYear - monthStart marchMonth + 1 }

def toDays (date : Date) : Int :=
  let marchMonth := if 3 ≤ date.month then date.month - 3 else date.month + 9
  let marchYear := if 3 ≤ date.month then date.year else date.year - 1
  let era := marchYear / 400
  let inEra := (marchYear % 400).toNat
  let inYear := monthStart marchMonth + (date.day - 1)
  era * daysOf400 +
    (inEra / 100 * daysOf100 + inEra % 100 / 4 * daysOf4 + inEra % 4 * 365 + inYear : Nat) -
    daysToEpoch

example :
    ofDays 0 = ⟨1970, 1, 1⟩ ∧ ofDays 11016 = ⟨2000, 2, 29⟩ ∧ ofDays (-1) = ⟨1969, 12, 31⟩ := by
  decide

example : toDays ⟨2000, 2, 29⟩ = 11016 ∧ toDays ⟨-1, 12, 31⟩ = -719529 := by decide

end Date

end ClubOffice.Time
