import ClubOffice.Json.Value

/-!
# Reading JSON

A strict reader: one value, with blanks around it and nothing else.
-/

namespace ClubOffice.Json

def skipBlanks (text : List Char) : List Char :=
  text.dropWhile fun c => c = ' ' || c = '\t' || c = '\n' || c = '\r'

def hexDigit? (c : Char) : Option Nat :=
  if c.isDigit then some (c.toNat - '0'.toNat)
  else if 'a' ≤ c ∧ c ≤ 'f' then some (c.toNat - 'a'.toNat + 10)
  else if 'A' ≤ c ∧ c ≤ 'F' then some (c.toNat - 'A'.toNat + 10)
  else none

def readUnit : List Char → Option (Nat × List Char)
  | a :: b :: c :: d :: rest => do
      let digits ← [a, b, c, d].mapM hexDigit?
      some (digits.foldl (fun value digit => 16 * value + digit) 0, rest)
  | _ => none

def isHighSurrogate (unit : Nat) : Bool := 0xD800 ≤ unit && unit < 0xDC00

def isLowSurrogate (unit : Nat) : Bool := 0xDC00 ≤ unit && unit < 0xE000

/-- The character of an escaped code unit, together with the one after it if they are a pair. -/
def readEscapedUnit (text : List Char) : Option (Option Char × List Char) := do
  let (unit, rest) ← readUnit text
  if isHighSurrogate unit then
    let second : Option (Nat × List Char) :=
      match rest with
      | '\\' :: 'u' :: after => readUnit after
      | _ => none
    match second with
    | some (low, after) =>
        if isLowSurrogate low then
          some (some (Char.ofNat (0x10000 + (unit - 0xD800) * 0x400 + (low - 0xDC00))), after)
        else some (none, rest)
    | none => some (none, rest)
  else if isLowSurrogate unit then some (none, rest)
  else some (some (Char.ofNat unit), rest)

/-- The character of an escape, given what follows the backslash. -/
def readEscape : List Char → Option (Option Char × List Char)
  | '"' :: rest => some (some '"', rest)
  | '\\' :: rest => some (some '\\', rest)
  | '/' :: rest => some (some '/', rest)
  | 'b' :: rest => some (some (Char.ofNat 8), rest)
  | 'f' :: rest => some (some (Char.ofNat 12), rest)
  | 'n' :: rest => some (some '\n', rest)
  | 'r' :: rest => some (some '\r', rest)
  | 't' :: rest => some (some '\t', rest)
  | 'u' :: rest => readEscapedUnit rest
  | _ => none

/-- Reads a string up to its closing quote. A character that stands for nothing is kept as such
until the end. At most `fuel` characters are read. -/
def readChars (fuel : Nat) (text : List Char) : Option (List (Option Char) × List Char) :=
  match fuel, text with
  | 0, _ | _, [] => none
  | _ + 1, '"' :: rest => some ([], rest)
  | fuel + 1, '\\' :: rest => do
      let (c, rest) ← readEscape rest
      let (others, rest) ← readChars fuel rest
      some (c :: others, rest)
  | fuel + 1, c :: rest =>
      if c.toNat < 0x20 then none
      else do
        let (others, rest) ← readChars fuel rest
        some (some c :: others, rest)

def readString (text : List Char) : Option (Text × List Char) := do
  let (chars, rest) ← readChars (text.length + 1) text
  some ((chars.mapM id).map String.ofList, rest)

def readDigitRun (text : List Char) : Option (List Char × List Char) :=
  let digits := text.takeWhile Char.isDigit
  if digits.isEmpty then none else some (digits, text.drop digits.length)

/-- Reads the whole part of a number, which has no zero in front of other digits. -/
def readWhole : List Char → Option (List Char × List Char)
  | '0' :: rest => if (rest.takeWhile Char.isDigit).isEmpty then some (['0'], rest) else none
  | text => readDigitRun text

/-- Reads the part after the point, if there is one. -/
def readPoint : List Char → Option (List Char × List Char)
  | '.' :: rest => (readDigitRun rest).map fun (digits, rest) => ('.' :: digits, rest)
  | text => some ([], text)

/-- Reads an exponent, if there is one. -/
def readExponent : List Char → Option (List Char × List Char)
  | c :: rest =>
      if c = 'e' ∨ c = 'E' then
        match rest with
        | '+' :: rest => (readDigitRun rest).map fun (digits, rest) => (c :: '+' :: digits, rest)
        | '-' :: rest => (readDigitRun rest).map fun (digits, rest) => (c :: '-' :: digits, rest)
        | rest => (readDigitRun rest).map fun (digits, rest) => (c :: digits, rest)
      else some ([], c :: rest)
  | [] => some ([], [])

def readNumber (text : List Char) : Option (String × List Char) := do
  let (sign, text) := match text with
    | '-' :: rest => (['-'], rest)
    | text => ([], text)
  let (whole, text) ← readWhole text
  let (point, text) ← readPoint text
  let (exponent, text) ← readExponent text
  some (String.ofList (sign ++ whole ++ point ++ exponent), text)

/-- Passes over a given word. -/
def readWord (word text : List Char) : Option (List Char) :=
  if word.isPrefixOf text then some (text.drop word.length) else none

mutual

/-- Reads a value, after blanks. Nesting and length together are limited by `fuel`. -/
def readValue (fuel : Nat) (text : List Char) : Option (Value × List Char) :=
  match fuel with
  | 0 => none
  | fuel + 1 =>
      match skipBlanks text with
      | 'n' :: rest => (readWord "ull".toList rest).map fun rest => (.null, rest)
      | 't' :: rest => (readWord "rue".toList rest).map fun rest => (.bool true, rest)
      | 'f' :: rest => (readWord "alse".toList rest).map fun rest => (.bool false, rest)
      | '"' :: rest => (readString rest).map fun (text, rest) => (.string text, rest)
      | '[' :: rest =>
          match skipBlanks rest with
          | ']' :: rest => some (.array [], rest)
          | rest => (readItems fuel rest).map fun (items, rest) => (.array items, rest)
      | '\x7b' :: rest =>
          match skipBlanks rest with
          | '\x7d' :: rest => some (.object [], rest)
          | rest => (readMembers fuel rest).map fun (members, rest) => (.object members, rest)
      | text => (readNumber text).map fun (digits, rest) => (.number digits, rest)

def readItems (fuel : Nat) (text : List Char) : Option (List Value × List Char) :=
  match fuel with
  | 0 => none
  | fuel + 1 => do
      let (item, rest) ← readValue fuel text
      match skipBlanks rest with
      | ',' :: rest => do
          let (items, rest) ← readItems fuel rest
          some (item :: items, rest)
      | ']' :: rest => some ([item], rest)
      | _ => none

def readMembers (fuel : Nat) (text : List Char) :
    Option (List (Text × Value) × List Char) :=
  match fuel with
  | 0 => none
  | fuel + 1 => do
      let (name, rest) ← match skipBlanks text with
        | '"' :: rest => readString rest
        | _ => none
      let (value, rest) ← match skipBlanks rest with
        | ':' :: rest => readValue fuel rest
        | _ => none
      match skipBlanks rest with
      | ',' :: rest => do
          let (members, rest) ← readMembers fuel rest
          some ((name, value) :: members, rest)
      | '\x7d' :: rest => some ([(name, value)], rest)
      | _ => none

end

def Value.read (text : String) : Option Value := do
  let chars := text.toList
  let (value, rest) ← readValue (2 * chars.length + 2) chars
  if (skipBlanks rest).isEmpty then some value else none

end ClubOffice.Json
