import ClubOffice.Sorting
import ClubOffice.Time.Calendar

/-!
# Instants

An instant is a number of seconds since the start of 1970 in UTC, and nanoseconds counted
forward from there. They may run on into a second one: a leap second, which comes after its second
and before the next. Regular leap seconds come at the end of a minute, as the sixtieth second of
it; after any other second they have no written form of their own.
-/

namespace ClubOffice.Time

def nanosPerSecond : Nat := 1000000000

def secondsPerDay : Nat := 86400

def firstYear : Int := -262143

def lastYear : Int := 262142

/-- The first second there is: the start of the first year. -/
def firstSecond : Int := -8334601228800

/-- The last second there is: the end of the last year. -/
def lastSecond : Int := 8210266876799

example : Date.toDays ⟨firstYear, 1, 1⟩ * secondsPerDay = firstSecond ∧
    (Date.toDays ⟨lastYear, 12, 31⟩ + 1) * secondsPerDay - 1 = lastSecond := by decide

/-- The last second ends a minute. -/
theorem next_le_last {seconds : Int} (le_last : seconds ≤ lastSecond) (inside : seconds % 60 ≠ 59) :
    seconds + 1 ≤ lastSecond := by
  simp only [lastSecond] at le_last ⊢
  omega

/-- A point in time. The last field leaves none out: by `next_le_last` there always is a second
after a leap second within a minute. -/
structure Instant where
  seconds : Int
  nanos : Nat
  first_le : firstSecond ≤ seconds
  le_last : seconds ≤ lastSecond
  nanos_lt : nanos < 2 * nanosPerSecond
  next_le : nanosPerSecond ≤ nanos → seconds % 60 ≠ 59 → seconds + 1 ≤ lastSecond
deriving DecidableEq

namespace Instant

/-- Instants in the order of time are their numbers of nanoseconds, every second having room for a
leap second. -/
def order (instant : Instant) : Int :=
  instant.seconds * (2 * nanosPerSecond : Nat) + instant.nanos

theorem order_inj {instant other : Instant} (same : instant.order = other.order) :
    instant = other := by
  obtain ⟨seconds, nanos, _, _, below, _⟩ := instant
  obtain ⟨seconds', nanos', _, _, below', _⟩ := other
  simp only [order, nanosPerSecond] at same below below'
  have sameSeconds : seconds = seconds' := by omega
  have sameNanos : nanos = nanos' := by omega
  subst sameSeconds sameNanos
  rfl

instance : LE Instant := ⟨fun a b => a.order ≤ b.order⟩

instance : LT Instant := ⟨fun a b => a.order < b.order⟩

instance (a b : Instant) : Decidable (a ≤ b) := inferInstanceAs (Decidable (a.order ≤ b.order))

instance (a b : Instant) : Decidable (a < b) := inferInstanceAs (Decidable (a.order < b.order))

theorem le_antisymm {a b : Instant} (first : a ≤ b) (second : b ≤ a) : a = b :=
  order_inj (Int.le_antisymm first second)

/-- An instant is before another one or has a tie with it broken, just if it is not after it and
any tie is broken. -/
theorem lt_or_tie_iff {a b : Instant} {broken : Prop} :
    a < b ∨ a = b ∧ broken ↔ a ≤ b ∧ (b ≤ a → broken) := by
  constructor
  · rintro (before | ⟨same, broken⟩)
    · exact ⟨Int.le_of_lt before, fun back => absurd back (Int.not_le.2 before)⟩
    · exact ⟨same ▸ Int.le_refl _, fun _ => broken⟩
  · rintro ⟨notAfter, tie⟩
    by_cases back : b ≤ a
    · exact .inr ⟨le_antisymm notAfter back, tie back⟩
    · exact .inl (Int.not_le.1 back)

section Comparing

variable {α : Type} (time : α → Instant)

theorem total_by (a b : α) (after : decide (time a ≤ time b) = false) :
    decide (time b ≤ time a) = true :=
  decide_eq_true (Int.le_of_lt (Int.not_le.1 (of_decide_eq_false after)))

theorem trans_by (a b c : α) (first : decide (time a ≤ time b) = true)
    (second : decide (time b ≤ time c) = true) : decide (time a ≤ time c) = true :=
  decide_eq_true (Int.le_trans (of_decide_eq_true first) (of_decide_eq_true second))

/-- Elements that are sorted by their times are in the order of time, and those of one time in any
order in which they were given. -/
theorem pairwise_sorted_by {R : α → α → Prop} {list : List α} (given : list.Pairwise R) :
    (sorted (fun a b => time a ≤ time b) list).Pairwise fun a b =>
      time a < time b ∨ time a = time b ∧ R a b := by
  have ordered := pairwise_sorted_of_pairwise (total_by time) (trans_by time) given
  refine ordered.imp ?_
  rintro a b ⟨notAfter, tie⟩
  exact lt_or_tie_iff.2 ⟨of_decide_eq_true notAfter, fun back => tie (decide_eq_true back)⟩

end Comparing

/-- Whether the instant is in a leap second only at the end of a minute. -/
def Regular (instant : Instant) : Prop :=
  nanosPerSecond ≤ instant.nanos → instant.seconds % 60 = 59

instance (instant : Instant) : Decidable instant.Regular :=
  inferInstanceAs (Decidable (_ → _))

theorem not_regular_iff {instant : Instant} :
    ¬ instant.Regular ↔ nanosPerSecond ≤ instant.nanos ∧ instant.seconds % 60 ≠ 59 :=
  Classical.not_imp

/-- The regular instant of the given seconds and nanoseconds, if there is one. -/
def ofParts? (seconds : Int) (nanos : Nat) : Option Instant :=
  if h : firstSecond ≤ seconds ∧ seconds ≤ lastSecond ∧ nanos < 2 * nanosPerSecond ∧
      (nanosPerSecond ≤ nanos → seconds % 60 = 59) then
    some ⟨seconds, nanos, h.1, h.2.1, h.2.2.1, fun _ => next_le_last h.2.1⟩
  else none

theorem ofParts?_parts {instant : Instant} (regular : instant.Regular) :
    ofParts? instant.seconds instant.nanos = some instant :=
  dif_pos ⟨instant.first_le, instant.le_last, instant.nanos_lt, regular⟩

theorem regular_of_ofParts? {seconds : Int} {nanos : Nat} {instant : Instant}
    (found : ofParts? seconds nanos = some instant) : instant.Regular := by
  unfold ofParts? at found
  split at found
  · rename_i known
    cases found
    exact known.2.2.2
  · cases found

def epoch : Instant := ⟨0, 0, by decide, by decide, by decide, by decide⟩

/-- The instant as seconds and nanoseconds below a second: a leap second is counted as the second
that follows it. -/
def plain (instant : Instant) : Int × Nat :=
  if nanosPerSecond ≤ instant.nanos then
    (instant.seconds + 1, instant.nanos - nanosPerSecond)
  else (instant.seconds, instant.nanos)

/-- The same time of day a number of days earlier, unless that is before the first second. -/
def daysBefore? (instant : Instant) (days : Nat) : Option Instant :=
  if days = 0 then some instant
  else ofParts? (instant.plain.1 - days * secondsPerDay) instant.plain.2

def date (instant : Instant) : Date := Date.ofDays (instant.seconds / secondsPerDay)

def secondOfDay (instant : Instant) : Nat := (instant.seconds % secondsPerDay).toNat

end Instant

end ClubOffice.Time
