/-!
# Atoms

The smallest parts of the head of a letter: runs of letters, digits and marks. Blanks are spaces
and tabs, which may stand between atoms.
-/

namespace ClubOffice.Email

/-- Marks that an atom may hold besides letters and digits. -/
def atomMarks : List Char := "!#$%&'*+-/=?^_\x60\x7b|\x7d~".toList

def isAtomChar (c : Char) : Bool := c.isAlphanum || atomMarks.contains c || 127 < c.toNat

/-- Whether the character may stand between atoms. -/
def isBetween (c : Char) : Bool := c = ' ' || c = '\t'

def dropBlanks (text : List Char) : List Char := text.dropWhile isBetween

def readAtom (text : List Char) : Option (List Char × List Char) :=
  let text := dropBlanks text
  let atom := text.takeWhile isAtomChar
  if atom.isEmpty then none else some (atom, text.drop atom.length)

/-- Reads further atoms as long as each follows a dot. At most `fuel` of them are read. -/
def readDotted : Nat → List Char → List Char × List Char
  | fuel + 1, '.' :: text =>
      let atom := text.takeWhile isAtomChar
      if atom.isEmpty then ([], '.' :: text)
      else
        let (others, rest) := readDotted fuel (text.drop atom.length)
        ('.' :: atom ++ others, rest)
  | _, text => ([], text)

def readDotAtom (text : List Char) : Option (List Char × List Char) := do
  let (atom, rest) ← readAtom text
  let (others, rest) := readDotted rest.length rest
  some (atom ++ others, rest)

def isDotAtom (text : List Char) : Bool := readDotAtom text == some (text, [])

end ClubOffice.Email
