/-!
# Numerals

Whole numbers in decimal: their written form, and the reader for numbers of a limited size.
The reader takes an optional plus sign and any number of leading zeros, and looks at the digits
from left to right, so the first thing that is wrong is what it reports.
-/

namespace ClubOffice.Text

/-- The decimal digits of a number, without leading zeros. -/
def decimal (n : Nat) : List Char := Nat.toDigits 10 n

/-- The decimal digits of a number, with zeros in front up to `width` of them. -/
def padded (width n : Nat) : List Char :=
  List.replicate (width - (decimal n).length) '0' ++ decimal n

inductive NumeralFlaw
  | empty
  | invalidDigit
  | tooLarge
  | tooSmall
deriving DecidableEq, Repr

def NumeralFlaw.message : NumeralFlaw → String
  | .empty => "cannot parse integer from empty string"
  | .invalidDigit => "invalid digit found in string"
  | .tooLarge => "number too large to fit in target type"
  | .tooSmall => "number too small to fit in target type"

/-- Reads the remaining digits of a number below `bound` whose digits so far make `soFar`. -/
def readDigits (bound : Nat) : List Char → Nat → Except NumeralFlaw Nat
  | [], soFar => .ok soFar
  | c :: rest, soFar =>
      if c.isDigit then
        let next := 10 * soFar + (c.toNat - '0'.toNat)
        if next < bound then readDigits bound rest next else .error .tooLarge
      else .error .invalidDigit

def readNumeral (bound : Nat) : List Char → Except NumeralFlaw Nat
  | [] => .error .empty
  | ['+'] => .error .invalidDigit
  | '+' :: digits => readDigits bound digits 0
  | digits => readDigits bound digits 0

def checkBelow (bound n : Nat) : Except NumeralFlaw Nat :=
  if n < bound then .ok n else .error .tooLarge

end ClubOffice.Text
