import ClubOffice.Email.Atom
import ClubOffice.Email.HostNumber
import ClubOffice.Email.International
import ClubOffice.Text.Bytes

/-!
# Domains

A domain is labels with dots between them. It has to keep to the limits either as it is or in its
ASCII form, which may turn out to be something in square brackets or the number of a host instead.
-/

namespace ClubOffice.Email.Domain

open Text

/-- The longest domain, in bytes. -/
def longest : Nat := 254

/-- The longest label, in bytes. -/
def longestLabel : Nat := 63

/-- Whether a label keeps to the limits. It begins and ends with a letter or number. -/
def isLabel (label : List Char) : Bool :=
  byteLength label ≤ longestLabel && label.all isAtomChar &&
    label.head?.any alphanumeric.covers && label.getLast?.any alphanumeric.covers

def isLabels (text : List Char) : Bool :=
  byteLength text ≤ longest && (parts '.' text).all isLabel

def isLiteralChar (c : Char) : Bool :=
  '!' ≤ c && c ≤ '~' && c != '[' && c != '\\' && c != ']'

def isLiteral (text : List Char) : Bool :=
  byteLength text ≤ longest &&
    match text with
    | '[' :: rest => rest.getLast? == some ']' && rest.dropLast.all isLiteralChar
    | _ => false

/-- Whether a text is labels that keep to the limits, a literal, or the number of a host. Short
numbers are labels too. -/
def fits (text : List Char) : Bool := isLabels text || isLiteral text || HostNumber.isLong text

/-- Whether a text is a domain that mail can be sent to. -/
def isDomain (text : List Char) : Bool := fits text || (International.ascii? text).any fits

end ClubOffice.Email.Domain
