import ClubOffice.Fault
import ClubOffice.Text.Bytes
import ClubOffice.Text.Lower
import ClubOffice.Text.WhiteSpace

/-!
# Email addresses

An address is kept trimmed and in lowercase. It has one at-sign, something before it, and a dot
somewhere after it.
-/

namespace ClubOffice.Email

open Text

structure Address where
  text : String
deriving DecidableEq, Repr

namespace Address

def maxBytes : Nat := 254

inductive Flaw
  | empty
  | notOneAt
  | noLocalPart
  | badDomain
  | tooLong
deriving DecidableEq, Repr

def Flaw.message : Flaw → String
  | .empty => "email address must not be empty"
  | .notOneAt => "email address must contain exactly one '@'"
  | .noLocalPart => "email local part must not be empty"
  | .badDomain => "email domain must contain at least one '.' and no '@'"
  | .tooLong => s!"email address must not exceed {maxBytes} characters"

def Flaw.fault (flaw : Flaw) : Fault := .validation flaw.message

def normal (text : List Char) : List Char := lower (trim text)

/-- The first thing wrong with a text in normal form. -/
def flaw? (text : List Char) : Option Flaw :=
  let domain := (text.dropWhile (· ≠ '@')).drop 1
  if text.isEmpty then some .empty
  else if '@' ∉ text then some .notOneAt
  else if (text.takeWhile (· ≠ '@')).isEmpty then some .noLocalPart
  else if '@' ∈ domain ∨ '.' ∉ domain then some .badDomain
  else if maxBytes < byteLength text then some .tooLong
  else none

def make (text : String) : Except Flaw Address :=
  let text := normal text.toList
  match flaw? text with
  | some flaw => .error flaw
  | none => .ok ⟨String.ofList text⟩

/-- Whether the address is one that is made, unchanged, of its own text. -/
def Sound (address : Address) : Prop := make address.text = .ok address

end Address

end ClubOffice.Email
