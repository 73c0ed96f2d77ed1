import ClubOffice.Text.Numeral
import ClubOffice.Text.WhiteSpace
import ClubOffice.Time.Instant

/-!
# Reading instants

A reader for dates with a time of day and an offset from UTC. It is lenient: white space may
stand before every field and before the separators, fields may have fewer digits than usual,
years may have a sign and more digits, and the offset may be spelled in several ways. Second 60
is a leap second.
-/

namespace ClubOffice.Time

open Text

/-- Reads at least one and at most `most` digits, and gives the number and the rest. -/
def readNumber (most : Nat) (text : List Char) : Option (Nat × List Char) :=
  let digits := (text.take most).takeWhile Char.isDigit
  if digits.isEmpty then none
  else some (Nat.ofDigitChars 10 digits 0, text.drop digits.length)

/-- Reads a number that may have white space before it and must be from `least` to `greatest`. -/
def readField (most least greatest : Nat) (text : List Char) : Option (Nat × List Char) := do
  let (value, rest) ← readNumber most (trimStart text)
  if least ≤ value ∧ value ≤ greatest then some (value, rest) else none

/-- Reads a year: up to four digits, or any number of them after a sign. -/
def readYear (text : List Char) : Option (Int × List Char) :=
  let (sign, most, digits) : Int × Nat × List Char :=
    match trimStart text with
    | '-' :: rest => (-1, rest.length, rest)
    | '+' :: rest => (1, rest.length, rest)
    | rest => (1, 4, rest)
  match readNumber most digits with
  | none => none
  | some (value, rest) =>
      let year := sign * value
      if firstYear ≤ year ∧ year ≤ lastYear then some (year, rest) else none

def readSeparator (separator : Char) (text : List Char) : Option (List Char) :=
  match trimStart text with
  | c :: rest => if c = separator then some rest else none
  | [] => none

def readDate (text : List Char) : Option (Date × List Char) := do
  let (year, text) ← readYear text
  let text ← readSeparator '-' text
  let (month, text) ← readField 2 1 12 text
  let text ← readSeparator '-' text
  let (day, text) ← readField 2 1 31 text
  let date : Date := ⟨year, month, day⟩
  if date.Exists then some (date, text) else none

/-- Reads a fraction of a second, in nanoseconds; digits past the ninth do not count. -/
def readFraction : List Char → Option (Nat × List Char)
  | '.' :: text => do
      let (value, rest) ← readNumber 9 text
      some (value * Nat.pow 10 (9 - (text.length - rest.length)), rest.dropWhile Char.isDigit)
  | text => some (0, text)

/-- Reads a time of day: the second of the day, and nanoseconds that run on into a leap second. -/
def readClock (text : List Char) : Option ((Nat × Nat) × List Char) := do
  let (hour, text) ← readField 2 0 23 text
  let text ← readSeparator ':' text
  let (minute, text) ← readField 2 0 59 text
  let text ← readSeparator ':' text
  let (second, text) ← readField 2 0 60 text
  let (nanos, text) ← readFraction text
  let moment := hour * 3600 + minute * 60 + min second 59
  some ((moment, if second = 60 then nanos + nanosPerSecond else nanos), trimStart text)

/-- Two digits of which the first is at most `greatest`, as a number. -/
def readPair (greatest : Char) : List Char → Option (Nat × List Char)
  | a :: b :: rest =>
      if a.isDigit && b.isDigit && a ≤ greatest then some (Nat.ofDigitChars 10 [a, b] 0, rest)
      else none
  | _ => none

/-- Reads two digits of hours and two of minutes, as seconds. Any number of colons and white space
may stand between them. -/
def readHoursMinutes (text : List Char) : Option (Nat × List Char) := do
  let (hours, text) ← readPair '9' text
  let (minutes, text) ← readPair '5' (text.dropWhile fun c => c = ':' || isSpace c)
  some (hours * 3600 + minutes * 60, text)

/-- Reads an offset from UTC in seconds: the word UTC, the letter Z, or a sign with hours and
minutes. -/
def readOffset (text : List Char) : Option (Int × List Char) :=
  if (text.take 3).map Char.toUpper = "UTC".toList then some (0, text.drop 3)
  else match text with
    | 'Z' :: rest | 'z' :: rest => some (0, rest)
    | '+' :: rest => (readHoursMinutes rest).map fun (seconds, rest) => (seconds, rest)
    | '-' :: rest | '−' :: rest =>
        (readHoursMinutes rest).map fun (seconds, rest) => (-seconds, rest)
    | _ => none

def offsetAllowed (offset : Int) : Bool := offset.natAbs < secondsPerDay

def Instant.read (text : List Char) : Option Instant := do
  let (date, text) ← readDate text
  let text ← match text with
    | 'T' :: rest | 't' :: rest | ' ' :: rest => some rest
    | _ => none
  let ((second, nanos), text) ← readClock text
  let (offset, text) ← readOffset text
  if isBlank text && offsetAllowed offset then
    Instant.ofParts? (date.toDays * secondsPerDay + second - offset) nanos
  else none

end ClubOffice.Time
