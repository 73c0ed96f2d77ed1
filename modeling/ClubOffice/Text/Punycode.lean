import ClubOffice.Sorting

/-!
# Punycode

A way to write any text in ASCII: first the ASCII characters of the text, then where the others go.
The others are put in one after another, in the order of their code points and then of their
places. Each is told by how far it is from the one before it, counted over all places for all code
points in between, in digits of base 36 whose weights follow the size of the distances so far.
-/

namespace ClubOffice.Text.Punycode

/-- A character that is put in: its code point, and how many characters stand before its place. -/
structure Insertion where
  code : Nat
  place : Nat
deriving DecidableEq, Repr

/-- The characters to be put into a text that comes after `before`, in the order of the text. Those
that are put in earlier have a lower code point, or the same one further in front. -/
def insertionsAfter (before : List Char) : List Char → List Insertion
  | [] => []
  | c :: rest =>
      let others := insertionsAfter (c :: before) rest
      if c.toNat < 128 then others
      else ⟨c.toNat, before.countP (·.toNat ≤ c.toNat)⟩ :: others

def insertions (text : List Char) : List Insertion :=
  sorted (fun a b => a.code ≤ b.code) (insertionsAfter [] text)

/-- The digits of base 36 are the letters and then the decimal digits. -/
def digit (n : Nat) : Char := Char.ofNat (if n < 26 then 97 + n else 22 + n)

/-- The least digit at a position that does not end a number. -/
def threshold (bias position : Nat) : Nat := max 1 (min 26 (position - bias))

theorem one_le_threshold (bias position : Nat) : 1 ≤ threshold bias position :=
  Nat.le_max_left 1 _

/-- The digits of a number from a position on. -/
def digits (bias position n : Nat) : List Char :=
  let least := threshold bias position
  if n < least then [digit n]
  else
    digit (least + (n - least) % (36 - least)) ::
      digits bias (position + 36) ((n - least) / (36 - least))
termination_by n
decreasing_by
  have := one_le_threshold bias position
  have := Nat.div_le_self (n - threshold bias position) (36 - threshold bias position)
  omega

/-- The bias for a distance that has been scaled down, and for the positions that this took. -/
def biasFor (position distance : Nat) : Nat :=
  if 455 < distance then biasFor (position + 36) (distance / 35)
  else position + 36 * distance / (distance + 38)
termination_by distance
decreasing_by omega

/-- The bias after a distance was told, when the text has the given length by then. The first
distance counts for much less. -/
def adapt (distance length : Nat) (first : Bool) : Nat :=
  let scaled := if first then distance / 700 else distance / 2
  biasFor 0 (scaled + scaled / length)

/-- Tells the characters to be put into a text that has `length` characters, of which `plain` were
there from the start, when the code point and the place next to be looked at are given. -/
def tell (plain : Nat) : List Insertion → (code place length bias : Nat) → List Char
  | [], _, _, _, _ => []
  | next :: rest, code, place, length, bias =>
      let distance := (next.code - code) * (length + 1) + next.place - place
      digits bias 36 distance ++
        tell plain rest next.code (next.place + 1) (length + 1)
          (adapt distance (length + 1) (length = plain))

def encode (text : List Char) : List Char :=
  let plain := text.filter (·.toNat < 128)
  plain ++ (if plain.isEmpty then [] else ['-']) ++
    tell plain.length (insertions text) 128 0 plain.length 72

example : encode "bücher".toList = "bcher-kva".toList := by cbv

example : encode "日本語".toList = "wgv71a119e".toList := by cbv

def digitValue? (c : Char) : Option Nat :=
  if c.isLower then some (c.toNat - 97)
  else if c.isDigit then some (c.toNat - 22)
  else none

/-- A text that is being read. -/
structure Reading where
  /-- What has been put together so far. -/
  text : List Char
  /-- The code point and the place next to be looked at. -/
  code : Nat := 128
  place : Nat := 0
  /-- The bias of the distance that is being read, and whether that is the first one. -/
  bias : Nat := 72
  first : Bool := true
  /-- The position and the weight of its next digit, and what its digits make so far. -/
  position : Nat := 36
  weight : Nat := 1
  distance : Nat := 0

/-- Puts in the next character, which is at a distance from where the reading is. -/
def Reading.insert? (reading : Reading) (distance : Nat) : Option Reading := do
  let length := reading.text.length + 1
  let code := reading.code + (reading.place + distance) / length
  let place := (reading.place + distance) % length
  guard code.isValidChar
  some
    { text := reading.text.take place ++ Char.ofNat code :: reading.text.drop place
      code := code
      place := place + 1
      bias := adapt distance length reading.first
      first := false }

/-- Reads one digit. A digit that is below the least one ends a distance. -/
def Reading.next? (reading : Reading) (c : Char) : Option Reading := do
  let value ← digitValue? c
  let least := threshold reading.bias reading.position
  let distance := reading.distance + value * reading.weight
  if value < least then reading.insert? distance
  else
    some { reading with
      position := reading.position + 36
      weight := reading.weight * (36 - least)
      distance := distance }

/-- What a Punycode form says. What stands before its last hyphen is ASCII, and there is no hyphen
without something before it. -/
def decode? (code : List Char) : Option (List Char) := do
  let told := (code.reverse.takeWhile (· ≠ '-')).reverse
  let before := code.take (code.length - told.length)
  let plain := before.dropLast
  guard (before ≠ ['-'] && plain.all (·.toNat < 128))
  let reading ← told.foldlM Reading.next? { text := plain }
  guard (reading.position = 36)
  some reading.text

example : decode? "bcher-kva".toList = some "bücher".toList := by cbv

example : decode? "wgv71a119e".toList = some "日本語".toList := by cbv

end ClubOffice.Text.Punycode
