import ClubOffice.Text.Numeral
import ClubOffice.Time.Instant

/-!
# The written form of an instant

Date and time of day in UTC. A fraction of a second has three, six or nine digits, the fewest
that are exact, and is left out when it is zero. A year of more than four digits, or before the
year 0, has a sign. A regular leap second is the sixtieth second of its minute; one within a minute
looks like the second that follows it.
-/

namespace ClubOffice.Time

open Text

def yearText (year : Int) : List Char :=
  if 0 ≤ year ∧ year ≤ 9999 then padded 4 year.toNat
  else (if year < 0 then '-' else '+') :: padded 4 year.natAbs

def dateText (date : Date) : List Char :=
  yearText date.year ++ '-' :: padded 2 date.month ++ '-' :: padded 2 date.day

def fractionText (nanos : Nat) : List Char :=
  if nanos = 0 then []
  else if nanos % 1000000 = 0 then '.' :: padded 3 (nanos / 1000000)
  else if nanos % 1000 = 0 then '.' :: padded 6 (nanos / 1000)
  else '.' :: padded 9 nanos

def clockText (instant : Instant) : List Char :=
  let second := instant.secondOfDay
  let leap := decide (nanosPerSecond ≤ instant.nanos)
  padded 2 (second / 3600) ++ ':' :: padded 2 (second / 60 % 60) ++
    ':' :: padded 2 (second % 60 + leap.toNat) ++
    fractionText (instant.nanos - leap.toNat * nanosPerSecond)

namespace Instant

/-- The written form with the given text between date and time, and after them. -/
def written (between zone : List Char) (instant : Instant) : List Char :=
  dateText instant.date ++ between ++ clockText instant ++ zone

/-- The form for reading, as it stands in messages. -/
def display (instant : Instant) : String := String.ofList (instant.written [' '] " UTC".toList)

/-- The form for exchange, in Zulu time. -/
def zulu (instant : Instant) : String := String.ofList (instant.written ['T'] ['Z'])

/-- The form for exchange, with a numeric offset. -/
def withOffset (instant : Instant) : String :=
  String.ofList (instant.written ['T'] "+00:00".toList)

instance : ToString Instant := ⟨display⟩

end Instant

end ClubOffice.Time
