/-!
# JSON values

A value as it is written: an object keeps its members in order, repeated names included, and a
number keeps its digits. A string may spell a surrogate that is not part of a pair; such a string
stands for no text.
-/

namespace ClubOffice.Json

/-- The text that a string stands for, if it stands for one. -/
abbrev Text := Option String

inductive Value
  | null
  | bool (value : Bool)
  | number (digits : String)
  | string (text : Text)
  | array (items : List Value)
  | object (members : List (Text × Value))

def Value.ofString (text : String) : Value := .string (some text)

end ClubOffice.Json
