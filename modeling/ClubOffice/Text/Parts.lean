/-!
# The parts of a text

A text is split at each separator; parts may be empty.
-/

namespace ClubOffice.Text

/-- The parts of a text between separators. -/
def parts (separator : Char) : List Char → List (List Char)
  | [] => [[]]
  | c :: rest =>
      if c = separator then [] :: parts separator rest
      else
        match parts separator rest with
        | [] => [[c]]
        | part :: others => (c :: part) :: others

end ClubOffice.Text
