import ClubOffice.Text.Parts

/-!
# Hosts by number

A host can be named by its number. The short numbers are four decimal numbers of a byte with dots
between them; the long ones are eight groups of hexadecimal digits with colons between them, where
two colons stand for any number of groups of zeros, and a short number for the last two groups.
-/

namespace ClubOffice.Email.HostNumber

open Text

def isByte (text : List Char) : Bool :=
  text.all Char.isDigit && 1 ≤ text.length && text.length ≤ 3 &&
    (text.length = 1 || text.head? != some '0') && Nat.ofDigitChars 10 text 0 ≤ 255

def isShort (text : List Char) : Bool :=
  let numbers := parts '.' text
  numbers.length = 4 && numbers.all isByte

def isHexDigit (c : Char) : Bool := c.isDigit || ('a' ≤ c && c ≤ 'f') || ('A' ≤ c && c ≤ 'F')

def isGroup (text : List Char) : Bool :=
  text.all isHexDigit && 1 ≤ text.length && text.length ≤ 4

/-- The number of groups in texts that are groups, the last of which may be a short number if it
stands for the `last` groups. -/
def countGroups (last : Bool) : List (List Char) → Option Nat
  | [] => some 0
  | [text] => if isGroup text then some 1 else if last && isShort text then some 2 else none
  | text :: rest => if isGroup text then (countGroups last rest).map (· + 1) else none

def groupsIn (last : Bool) (text : List Char) : Option Nat :=
  if text.isEmpty then some 0 else countGroups last (parts ':' text)

/-- What stands before and after the first two colons in a row. -/
def cutAtGap? : List Char → Option (List Char × List Char)
  | ':' :: ':' :: rest => some ([], rest)
  | c :: rest => (cutAtGap? rest).map fun (before, after) => (c :: before, after)
  | [] => none

def isLong (text : List Char) : Bool :=
  match cutAtGap? text with
  | none => groupsIn true text == some 8
  | some (before, after) =>
      match groupsIn false before, groupsIn true after with
      | some front, some back => front + back ≤ 7
      | _, _ => false

example : isLong "::".toList = true ∧ isLong "1:2:3:4:5:6:7::".toList = true ∧
    isLong "::ffff:10.0.0.1".toList = true ∧ isLong ":::".toList = false ∧
    isLong "1:2:3:4:5:6:7:8:9".toList = false := by decide +kernel

end ClubOffice.Email.HostNumber
