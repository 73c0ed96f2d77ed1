import ClubOffice.Text.CharSet

/-!
# White space

The property White_Space, and trimming by it. A text is blank when it holds nothing else.
-/

namespace ClubOffice.Text

/-- The property White_Space. -/
def whiteSpace : CharSet :=
  [ (0x9, 0xD), (0x20, 0x20), (0x85, 0x85), (0xA0, 0xA0), (0x1680, 0x1680), (0x2000, 0x200A),
    (0x2028, 0x2029), (0x202F, 0x202F), (0x205F, 0x205F), (0x3000, 0x3000)]

def isSpace (c : Char) : Bool := whiteSpace.covers c

def trimStart (text : List Char) : List Char := text.dropWhile isSpace

def trimEnd (text : List Char) : List Char := (text.reverse.dropWhile isSpace).reverse

def trim (text : List Char) : List Char := trimEnd (trimStart text)

/-- Whether the text holds nothing but white space. -/
def isBlank (text : List Char) : Bool := text.all isSpace

theorem isBlank_iff (text : List Char) : isBlank text = true ↔ ∀ c ∈ text, isSpace c = true := by
  simp [isBlank]

end ClubOffice.Text
