import ClubOffice.Json.Value

/-!
# Writing JSON

The compact form of a value, without blanks. Quotes, backslashes and control characters are escaped
and all other characters stand as they are; a string that stands for no text is written as half of
a surrogate pair.
-/

namespace ClubOffice.Json

/-- A character as it stands between quotes. -/
def escaped (c : Char) : List Char :=
  if c = '"' then ['\\', '"']
  else if c = '\\' then ['\\', '\\']
  else if c = '\n' then ['\\', 'n']
  else if c = '\r' then ['\\', 'r']
  else if c = '\t' then ['\\', 't']
  else if c.toNat = 8 then ['\\', 'b']
  else if c.toNat = 12 then ['\\', 'f']
  else if c.toNat < 0x20 then
    ['\\', 'u', '0', '0', Nat.digitChar (c.toNat / 16), Nat.digitChar (c.toNat % 16)]
  else [c]

def writeString : Text → List Char
  | some text => '"' :: text.toList.flatMap escaped ++ ['"']
  | none => '"' :: "\\ud800".toList ++ ['"']

mutual

def writeValue : Value → List Char
  | .null => "null".toList
  | .bool true => "true".toList
  | .bool false => "false".toList
  | .number digits => digits.toList
  | .string text => writeString text
  | .array items => '[' :: writeItems items ++ [']']
  | .object members => '\x7b' :: writeMembers members ++ ['\x7d']

def writeItems : List Value → List Char
  | [] => []
  | [item] => writeValue item
  | item :: rest => writeValue item ++ ',' :: writeItems rest

def writeMembers : List (Text × Value) → List Char
  | [] => []
  | [(name, value)] => writeString name ++ ':' :: writeValue value
  | (name, value) :: rest =>
      writeString name ++ ':' :: writeValue value ++ ',' :: writeMembers rest

end

def Value.write (value : Value) : String := String.ofList (writeValue value)

end ClubOffice.Json
