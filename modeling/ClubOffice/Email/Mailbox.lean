import ClubOffice.Email.Domain
import ClubOffice.Text.WhiteSpace

/-!
# Mailboxes

A mailbox names where mail is sent to or comes from: an address, or a display name and then an
address in angle brackets. Names are made of atoms, dots and quoted strings.
-/

namespace ClubOffice.Email

open Text

structure Mailbox where
  name : Option String
  localPart : String
  domain : String
deriving DecidableEq, Repr

namespace Mailbox

/-- Whether a quoted string may hold the character after a backslash: any ASCII character that is
not NUL, a line feed or a carriage return. -/
def isEscapable (c : Char) : Bool :=
  0 < c.toNat && c.toNat < 128 && c != '\n' && c != '\r'

def isQuotable (c : Char) : Bool :=
  if c = '"' ∨ c = '\\' then false else isEscapable c || 127 < c.toNat

/-- Reads the rest of a quoted string, in which a backslash goes before a character that is to be
taken as it is. Of several blanks only the first counts, and blanks before the closing quote do not
count at all; `blank` is the one that counts among those just passed. -/
def readQuotedRest (blank : List Char) : List Char → Option (List Char × List Char)
  | [] => none
  | '"' :: rest => some ([], rest)
  | '\\' :: c :: rest => do
      guard (isEscapable c)
      let (others, rest) ← readQuotedRest [] rest
      some (blank ++ c :: others, rest)
  | c :: rest =>
      if isBetween c then readQuotedRest (if blank.isEmpty then [c] else blank) rest
      else do
        guard (isQuotable c)
        let (others, rest) ← readQuotedRest [] rest
        some (blank ++ c :: others, rest)

def readQuoted : List Char → Option (List Char × List Char)
  | '"' :: rest => readQuotedRest [] rest
  | _ => none

def readWord (text : List Char) : Option (List Char × List Char) :=
  match readQuoted (dropBlanks text) with
  | some result => some result
  | none => readAtom text

def readDot (text : List Char) : Option (List Char × List Char) :=
  match dropBlanks text with
  | '.' :: rest => some (['.'], rest)
  | _ => none

/-- Reads further words and dots, at most `fuel` of them, and keeps the blanks before them. -/
def readWords : Nat → List Char → List Char × List Char
  | 0, text => ([], text)
  | fuel + 1, text =>
      match (readWord text).or (readDot text) with
      | some (word, rest) =>
          let (others, rest) := readWords fuel rest
          (text.takeWhile isBetween ++ word ++ others, rest)
      | none => ([], text)

def readName (text : List Char) : Option (List Char × List Char) := do
  let (word, rest) ← readWord text
  let (others, rest) := readWords rest.length rest
  some (word ++ others, rest)

def readAddress (text : List Char) : Option ((List Char × List Char) × List Char) := do
  let (localPart, rest) ← match readDotAtom text with
    | some result => some result
    | none => readQuoted text
  match rest with
  | '@' :: rest =>
      let (domain, rest) ← readDotAtom rest
      some ((localPart, domain), rest)
  | _ => none

def readAngled (text : List Char) : Option ((List Char × List Char) × List Char) :=
  match dropBlanks text with
  | '<' :: rest => do
      let (address, rest) ← readAddress rest
      match rest with
      | '>' :: rest => some (address, rest)
      | _ => none
  | _ => none

def readNamed (text : List Char) : Option Mailbox := do
  let (name, rest) := match readName text with
    | some (name, rest) => (some (String.ofList name), rest)
    | none => (none, text)
  let ((localPart, domain), rest) ← readAngled rest
  if isBlank rest then some ⟨name, String.ofList localPart, String.ofList domain⟩ else none

def readBare (text : List Char) : Option Mailbox := do
  let ((localPart, domain), rest) ← readAddress text
  if isBlank rest then some ⟨none, String.ofList localPart, String.ofList domain⟩ else none

/-- The longest local part, in bytes. -/
def longestLocalPart : Nat := 64

/-- Whether a text may stand between the quotes of a local part. A backslash goes before any visible
ASCII character. -/
def isQuotedContent : List Char → Bool
  | [] => true
  | '\\' :: c :: rest => '!' ≤ c && c ≤ '~' && isQuotedContent rest
  | c :: rest =>
      (isBetween c || ('!' ≤ c && c ≤ '~' && c != '"' && c != '\\') || 127 < c.toNat) &&
        isQuotedContent rest

def inQuotes? : List Char → Option (List Char)
  | '"' :: rest => if rest.getLast? = some '"' then some rest.dropLast else none
  | _ => none

/-- Whether a text can be a local part: atoms with dots between them, or something in quotes. -/
def isLocalPart (text : List Char) : Bool :=
  byteLength text ≤ longestLocalPart &&
    match inQuotes? text with
    | some inner => !inner.isEmpty && isQuotedContent inner
    | none => isDotAtom text

/-- What can be wrong with the text of a mailbox: its form, or the local part or the domain of an
address of the right form. -/
inductive Flaw
  | form
  | localPart
  | domain
deriving DecidableEq, Repr

def Flaw.message : Flaw → String
  | .form => "Invalid input"
  | .localPart => "Invalid email user"
  | .domain => "Invalid email domain"

/-- Reads a mailbox. Any white space may stand around it. -/
def read (text : String) : Except Flaw Mailbox :=
  let text := trimStart text.toList
  match (readNamed text).or (readBare text) with
  | none => .error .form
  | some mailbox =>
      if !isLocalPart mailbox.localPart.toList then .error .localPart
      else if !Domain.isDomain mailbox.domain.toList then .error .domain
      else .ok mailbox

/-- The written form of a display name: atoms and blanks as they are, and all else in quotes. -/
def writtenName (name : List Char) : List Char :=
  if name.all fun c => isAtomChar c || isBetween c then name
  else
    ['"'] ++ name.flatMap (fun c => if c = '"' ∨ c = '\\' then ['\\', c] else [c]) ++ ['"']

/-- The written form. A name of white space alone is left out. -/
def text (mailbox : Mailbox) : String :=
  let address := mailbox.localPart ++ "@" ++ mailbox.domain
  match trim (mailbox.name.getD "").toList with
  | [] => address
  | name => String.ofList (writtenName name) ++ " <" ++ address ++ ">"

instance : ToString Mailbox := ⟨text⟩

end Mailbox

end ClubOffice.Email
