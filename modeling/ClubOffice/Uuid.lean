import ClubOffice.Text.Bytes

/-!
# Identifiers of 128 bits

A UUID is 32 hexadecimal digits. It is written in lowercase with hyphens between groups of 8, 4,
4, 4 and 12 digits, and read in four forms: with hyphens, without, with hyphens in braces, and
with hyphens after a URN prefix. A text of no such form is told what is wrong with it, positions
counted in bytes.
-/

namespace ClubOffice

open Text

/-- An identifier of 128 bits, as its hexadecimal digits. -/
structure Uuid where
  digits : List (Fin 16)
  length_digits : digits.length = 32
deriving DecidableEq, Repr

namespace Uuid

/-- Whether the digits of the first come no later, read as numbers. -/
def le (a b : Uuid) : Bool := go a.digits b.digits
where
  go : List (Fin 16) → List (Fin 16) → Bool
    | [], _ => true
    | _ :: _, [] => false
    | a :: as, b :: bs => a < b || (a == b && go as bs)

def digitChar (digit : Fin 16) : Char := Nat.digitChar digit

def digitOfChar? (c : Char) : Option (Fin 16) :=
  let code := c.toNat
  if '0'.toNat ≤ code ∧ code ≤ '9'.toNat then some (Fin.ofNat 16 (code - '0'.toNat))
  else if 'a'.toNat ≤ code ∧ code ≤ 'f'.toNat then some (Fin.ofNat 16 (code - 'a'.toNat + 10))
  else if 'A'.toNat ≤ code ∧ code ≤ 'F'.toNat then some (Fin.ofNat 16 (code - 'A'.toNat + 10))
  else none

theorem digitOfChar?_digitChar (digit : Fin 16) : digitOfChar? (digitChar digit) = some digit := by
  revert digit
  decide

def groups : List Nat := [8, 4, 4, 4, 12]

/-- Cuts a list into pieces of the given lengths, and joins them with hyphens. -/
def hyphenate : List Nat → List Char → List Char
  | [], _ => []
  | [length], text => text.take length
  | length :: rest, text => text.take length ++ '-' :: hyphenate rest (text.drop length)

def chars (uuid : Uuid) : List Char := hyphenate groups (uuid.digits.map digitChar)

def text (uuid : Uuid) : String := String.ofList uuid.chars

instance : ToString Uuid := ⟨text⟩

/-- Reads digits of the given group lengths with a hyphen between any two groups. -/
def readGroups : List Nat → List Char → Option (List (Fin 16))
  | [], text => if text.isEmpty then some [] else none
  | [length], text => if text.length = length then text.mapM digitOfChar? else none
  | length :: rest, text =>
      match text.drop length with
      | '-' :: after => do
          let here ← (text.take length).mapM digitOfChar?
          let there ← readGroups rest after
          some (here ++ there)
      | _ => none

/-- The identifier of a list of digits, if there are 32 of them. -/
def ofDigits? (digits : List (Fin 16)) : Option Uuid :=
  if h : digits.length = 32 then some ⟨digits, h⟩ else none

/-- What stands between an opening brace at the start and a closing one at the end. -/
def inBraces? : List Char → Option (List Char)
  | '\x7b' :: rest =>
      match rest.reverse with
      | '\x7d' :: inner => some inner.reverse
      | _ => none
  | _ => none

/-- What follows a URN prefix in letters of either case. -/
def afterUrn? : List Char → Option (List Char)
  | u :: r :: n :: ':' :: second :: third :: i :: d :: ':' :: rest =>
      if [u, r, n, second, third, i, d].map Char.toLower = "urnuuid".toList then some rest
      else none
  | _ => none

/-- The part of a text that has to be digits with hyphens, by the length of the text: a text
that is hyphenated itself, in braces, or after a URN prefix. -/
def hyphenated? (text : List Char) : Option (List Char) :=
  match byteLength text with
  | 36 => some text
  | 38 => inBraces? text
  | 45 => afterUrn? text
  | _ => none

inductive Flaw
  | character (found : Char) (offset : Nat)
  | length (bytes : Nat)
  | groupCount (found : Nat)
  | groupLength (group expected found : Nat)
deriving DecidableEq, Repr

def Flaw.message : Flaw → String
  | .character found offset => s!"invalid character: found `{found}` at {offset}"
  | .length bytes => s!"invalid length: found {bytes}"
  | .groupCount found => s!"invalid group count: expected 5, found {found}"
  | .groupLength group expected found =>
      s!"invalid group length in group {group}: expected {expected}, found {found}"

/-- The longest text, in bytes, whose characters are looked at. -/
def longest : Nat := 45

/-- The offsets of the hyphens, or the first character that is neither a digit nor a hyphen. -/
def hyphens (offset : Nat) : List Char → Except Flaw (List Nat)
  | [] => .ok []
  | c :: rest =>
      if c = '-' then (offset :: ·) <$> hyphens (offset + c.utf8Size) rest
      else if (digitOfChar? c).isSome then hyphens (offset + c.utf8Size) rest
      else .error (.character c offset)

/-- The first group that is not closed by a hyphen where it should be. -/
def groupFlaw (bytes : Nat) (group start : Nat) : List Nat → List Nat → Flaw
  | length :: lengths, bound :: bounds =>
      if bound = start + length then groupFlaw bytes (group + 1) (bound + 1) lengths bounds
      else .groupLength group length (bound - start)
  | length :: _, [] => .groupLength group length (bytes - start)
  | [], _ => .length bytes

/-- What is wrong with `inner`, which stands in a text of the given number of bytes after the first
`skipped` of them. Without a hyphen the length is at fault if digits alone would do. -/
def flawOf (bytes skipped : Nat) (alone : Bool) (inner : List Char) : Flaw :=
  match hyphens skipped inner with
  | .error flaw => flaw
  | .ok bounds =>
      if bounds.isEmpty && alone then .length bytes
      else if bounds.length ≠ 4 then .groupCount (bounds.length + 1)
      else groupFlaw bytes 0 0 groups (bounds.map (· - skipped))

/-- What is wrong with a text that is not as long as any form with hyphens. What stands in braces or
after a URN prefix is looked at without them. -/
def diagnose (text : List Char) : Flaw :=
  let bytes := byteLength text
  if longest < bytes then .length bytes
  else
    match inBraces? text with
    | some inner => flawOf bytes 1 false inner
    | none =>
        match afterUrn? text with
        | some inner => flawOf bytes 9 false inner
        | none => flawOf bytes 0 true text

def readHyphenated (text : List Char) : Except Flaw Uuid :=
  match (readGroups groups text).bind ofDigits? with
  | some uuid => .ok uuid
  | none => .error (flawOf (byteLength text) 0 false text)

def readPlain (text : List Char) : Except Flaw Uuid :=
  match (text.mapM digitOfChar?).bind ofDigits? with
  | some uuid => .ok uuid
  | none => .error (diagnose text)

/-- Reads an identifier in any of its forms. A text that is as long as a form with hyphens is held
against that form; the flaw of any other is found by its looks. -/
def read (text : List Char) : Except Flaw Uuid :=
  match hyphenated? text with
  | some body => readHyphenated body
  | none => readPlain text

def digitsOfNat : Nat → Nat → List (Fin 16)
  | 0, _ => []
  | count + 1, n => digitsOfNat count (n / 16) ++ [Fin.ofNat 16 n]

theorem length_digitsOfNat (count n : Nat) : (digitsOfNat count n).length = count := by
  induction count generalizing n with
  | zero => rfl
  | succ count ih => simp [digitsOfNat, ih]

/-- The identifier whose digits make the given number. -/
def ofNat (n : Nat) : Uuid := ⟨digitsOfNat 32 n, length_digitsOfNat 32 n⟩

end Uuid

end ClubOffice
